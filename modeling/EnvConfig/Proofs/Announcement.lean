import EnvConfig.Module.Build
import EnvConfig.Proofs.Keys
import EnvConfig.Proofs.LetterCase

-- What a module's documentation says all of its variables start with: the prefix and an underscore. Variables start
-- with the letters and numerals of the prefix, so that this is true if and only if there is nothing else in it.

namespace EnvConfig

open Text

-- A text that starts with another one, where some characters of that are left out.
theorem all_of_isPrefix_filter {p : Char → Bool} {sep d : Char} {cs ds : List Char} (hs : ¬p sep) (hd : p d)
    (h : cs ++ [sep] <+: cs.filter p ++ sep :: d :: ds) : ∀ c ∈ cs, p c := by
  induction cs
  case nil => exact fun _ hc => absurd hc List.not_mem_nil
  case cons c cs hi =>
    by_cases hc : p c
    case pos =>
      rw [List.filter_cons_of_pos hc, List.cons_append, List.cons_append, List.cons_prefix_cons] at h
      exact List.forall_mem_cons.mpr ⟨hc, hi h.right⟩
    case neg =>
      rw [List.filter_cons_of_neg hc] at h
      cases hf : cs.filter p
      case cons b bs =>
        rw [hf, List.cons_append, List.cons_append, List.cons_prefix_cons] at h
        have hb : p b := (List.mem_filter.mp (hf ▸ List.Mem.head bs)).right
        exact absurd (h.left ▸ hb) hc
      case nil =>
        -- Here the character is taken for the separator, and the one behind it is in the other text, too.
        obtain ⟨e, es, he⟩ := List.exists_cons_of_ne_nil (List.concat_ne_nil sep cs)
        rw [hf, List.cons_append, List.nil_append, he, List.cons_prefix_cons, List.cons_prefix_cons] at h
        obtain ⟨-, rfl, -⟩ := h
        cases List.mem_append.mp (he ▸ List.Mem.head es)
        case inl hm => exact absurd hd (List.filter_eq_nil_iff.mp hf _ hm)
        case inr hm => exact absurd (List.mem_singleton.mp hm ▸ hd) hs

namespace Naming

variable {text q : String} {path : FieldPath} {first : String} {rest : List String}

theorem toUpper_of_project? (h : project? text = some q) {c : Char} (hc : c ∈ q.toList) : toUpper c = [c] := by
  obtain ⟨d, -, hd⟩ := List.mem_flatMap.mp ((toList_of_project? h).left ▸ hc)
  exact toUpper_of_mem_toUpper hd

-- As a prefix is in upper case, what counts of it is as it stands there.
theorem sanitized_of_project? (h : project? text = some q) : sanitized q = q.toList.filter isAlphanumeric := by
  have hc : ∀ c ∈ q.toList.filter isAlphanumeric, (if isNumeral c then [c] else toUpper c) = [c] := by
    intro c hc
    rw [toUpper_of_project? h (List.mem_of_mem_filter hc), ite_self]
  rw [sanitized, List.flatMap_congr hc, List.flatMap_singleton']

theorem toList_variableName_cons (hp : path.segments = first :: rest) : (variableName q path).toList =
    sanitized q ++ '_' :: ['_'].intercalate (sanitized first :: rest.map sanitized) := by
  rw [toList_variableName, parts, hp]
  simp [List.intercalate_cons_cons]

theorem exists_head_sanitized (h : first.toList.any isAlphanumeric) :
    ∃ d ds, sanitized first = d :: ds ∧ isAlphanumeric d := by
  obtain ⟨c, hc⟩ := Option.isSome_iff_exists.mp (List.find?_isSome.mpr (List.any_eq_true.mp h))
  obtain ⟨tail, hs⟩ := exists_sanitized_append hc
  have hp := List.find?_some hc
  by_cases hn : isNumeral c
  case pos => exact ⟨c, tail, by rw [hs, if_pos hn, List.singleton_append], hp⟩
  case neg =>
    obtain ⟨d, ds, hu, hd⟩ := exists_head_toUpper (c := c) (by simpa [isAlphanumeric, hn] using hp)
    exact ⟨d, ds ++ tail, by rw [hs, if_neg hn, hu, List.cons_append], by simp [isAlphanumeric, hd]⟩

-- A key starts with what counts of the prefix. That is what the loader's documentation announces if and only if
-- everything in the prefix counts.
theorem key_starts_as_announced (h : project? text = some q) (hp : path.segments ≠ []) :
    q.toList.filter isAlphanumeric ++ ['_'] <+: (variableName q path).toList ∧
    (∀ f n, " Every variable starts with " ++ Module.inTicks (q ++ "_") ++ "." ∈ Module.loaderDocs q f n) ∧
    (q.toList.all isAlphanumeric → (q ++ "_").toList <+: (variableName q path).toList) ∧
    (∀ first ∈ path.segments.head?, first.toList.any isAlphanumeric →
      (q ++ "_").toList <+: (variableName q path).toList → q.toList.all isAlphanumeric) := by
  obtain ⟨first, rest, hp⟩ := List.exists_cons_of_ne_nil hp
  have hk := sanitized_of_project? h ▸ toList_variableName_cons (q := q) hp
  have hs : q.toList.filter isAlphanumeric ++ ['_'] <+: (variableName q path).toList := by
    rw [hk]
    exact ⟨_, List.append_assoc ..⟩
  refine ⟨hs, fun f n => by simp [Module.loaderDocs], fun ha => ?announced, fun part hf hd ha => ?all⟩
  case announced =>
    rw [List.filter_eq_self.mpr (List.all_eq_true.mp ha)] at hs
    rwa [String.toList_append]
  case all =>
    obtain rfl : first = part := by simpa [hp] using hf
    obtain ⟨d, ds, he, hd⟩ := exists_head_sanitized hd
    obtain ⟨tail, hi⟩ := exists_intercalate_cons '_' d ds (rest.map sanitized)
    rw [hk, he, hi, String.toList_append] at ha
    exact List.all_eq_true.mpr (all_of_isPrefix_filter (by decide) hd ha)

theorem key_of_shop_api : project? " shop-api" = some "SHOP-API" ∧ (⟨["apikey"]⟩ : FieldPath).segments ≠ [] ∧
    "SHOPAPI_".toList <+: (variableName "SHOP-API" ⟨["apikey"]⟩).toList := by
  have h : project? " shop-api" = some "SHOP-API" := by decide
  have hp : (⟨["apikey"]⟩ : FieldPath).segments ≠ [] := by decide
  exact ⟨h, hp, (key_starts_as_announced h hp).left⟩

-- The hyphen is announced, but it is in no key.
theorem key_not_as_announced : ∃ text q path, project? text = some q ∧ path.segments ≠ [] ∧
    ¬(q ++ "_").toList <+: (variableName q path).toList :=
  ⟨"shop-api", "SHOP-API", ⟨["apikey"]⟩, by decide, by decide, by decide⟩

end Naming
end EnvConfig
