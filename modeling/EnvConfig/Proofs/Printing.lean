import EnvConfig.Layout.Printing
import EnvConfig.Proofs.Barriers

-- A document keeps its marks in their order when it is printed, so that a comment in it that cannot be read
-- bars the whole text, if no mark in front of it starts another kind of comment.

namespace EnvConfig.Layout

open Source.Scan

-- Writes no slashes but those of a documentation comment that is not empty.
def Mark.IsPlain : Mark → Prop
  | text t    => '/' ∉ t.toList
  | comment t => ∃ s, t.toList = '/' :: '/' :: '/' :: s ∧ s ≠ [] ∧ '/' ∉ s
  | .break b  => '/' ∉ b.before.toList ∧ '/' ∉ b.after.toList ∧ '/' ∉ b.instead.toList
  | _         => True

@[simp]
theorem Mark.isPlain_break {b : Break} : Mark.IsPlain (.break b) ↔
    '/' ∉ b.before.toList ∧ '/' ∉ b.after.toList ∧ '/' ∉ b.instead.toList :=
  Iff.rfl

namespace Document

-- A comment that cannot be read, behind plain marks and empty comments.
inductive Barring : Document → Prop
  | comment {t x y d} : t.toList = '/' :: '/' :: '/' :: (x ++ '\r' :: y) → x.head? ≠ some '/' → '"' ∉ x →
    '\n' ∉ x → y ≠ [] → y.head? ≠ some '\n' → Barring (.comment t :: d)
  | plain {m d} : m.IsPlain → Barring d → Barring (m :: d)
  | empty {b d} : 0 < b.blanks → Mark.IsPlain (.break b) → Barring d →
    Barring (.comment "///" :: .break b :: d)

theorem Barring.append {d d' : Document} (h : ∀ m ∈ d, m.IsPlain) (h' : Barring d') : Barring (d ++ d') := by
  induction d
  case nil => exact h'
  case cons m d hi =>
    have ⟨hm, h⟩ := List.forall_mem_cons.mp h
    exact .plain hm (hi h)

theorem Barring.extend {d : Document} (h : Barring d) (d' : Document) : Barring (d ++ d') := by
  induction h
  case comment ht hx hq hn hy hy' => exact .comment ht hx hq hn hy hy'
  case plain hm _ hi => exact .plain hm hi
  case empty hb hm _ hi => exact .empty hb hm hi

theorem Barring.together {d : Document} {indent : Int} (h : Barring (d ++ line)) :
    Barring (together indent (d ++ line)) := by
  have hw : withoutInnerBreak (d ++ line) = d ++ line := by
    simp [withoutInnerBreak, line, breaking]
  unfold Document.together enclose
  split
  case h_1 he =>
    cases d
    case cons => simp [line, breaking] at he
    case nil =>
      cases h
      case plain h => cases h
  case h_2 => exact .plain trivial (hw.symm ▸ h.extend [.close])

theorem marks_step (mark : Mark) (m : Measure) :
    (m.step mark).marks.map (·.mark) = mark :: m.marks.map (·.mark) := by
  unfold Measure.step
  split <;> rfl

theorem marks_foldr (d : Document) (m : Measure) :
    (d.foldr Measure.step m).marks.map (·.mark) = d ++ m.marks.map (·.mark) := by
  induction d
  case nil => rfl
  case cons mark d hi => rw [List.foldr_cons, marks_step, hi, List.cons_append]

theorem marks_measured (d : Document) : d.measured.map (·.mark) = d := by
  simp [measured, marks_foldr]

end Document

namespace Page

variable {p p' q : Page} {s t : List Char} {b : Break} {m : Measured} {text : String}

-- What a page has more than another one.
def Adds (p p' : Page) (s : List Char) : Prop :=
  p'.written = s.reverse ++ p.written

theorem Adds.trans (h : Adds p p' s) (h' : Adds p' q t) : Adds p q (s ++ t) := by
  simp_all [Adds]

theorem adds_put : p.Adds (p.put text) (List.replicate p.pending ' ' ++ text.toList) := by
  simp [Adds, put]

theorem adds_putMark : ∃ s, p.Adds (p.putMark text) s ∧ ('/' ∉ text.toList → '/' ∉ s) := by
  unfold putMark
  split
  case isTrue => exact ⟨[], rfl, fun _ => List.not_mem_nil⟩
  case isFalse => exact ⟨_, adds_put, fun h => by simp [h]⟩

theorem adds_stayOnLine : p.Adds (p.stayOnLine b) b.instead.toList :=
  rfl

theorem adds_endLine : ∃ s, p.Adds (p.endLine b) s ∧ s ≠ [] ∧ (Mark.IsPlain (.break b) → '/' ∉ s) := by
  obtain ⟨s, hs, hn⟩ : ∃ s, p.Adds (p.putMark b.before) s ∧ ('/' ∉ b.before.toList → '/' ∉ s) := adds_putMark
  -- Everything but what may be written at the start of the next line.
  have ha {q : Page} (hq : q.written = '\n' :: (p.putMark b.before).written) : p.Adds q (s ++ ['\n']) := by
    simp_all [Adds]
  unfold endLine
  simp only
  split
  case isTrue => exact ⟨_, ha rfl, by simp, fun h => by simp [hn h.left]⟩
  case isFalse => exact ⟨_, (ha rfl).trans adds_put, by simp, fun h => by simp [hn h.left, h.right.left]⟩

theorem adds_break (size : Nat) : ∃ s, p.Adds (p.write ⟨.break b, size⟩) s ∧
    (0 < p.pending + b.blanks → s = [] → 0 < (p.write ⟨.break b, size⟩).pending) ∧
    (Mark.IsPlain (.break b) → '/' ∉ s) := by
  simp only [write]
  split
  case isTrue => exact ⟨_, adds_stayOnLine, fun hp _ => hp, fun h => h.right.right⟩
  case isFalse =>
    obtain ⟨s, hs, he, hn⟩ := adds_endLine (p := p) (b := b)
    exact ⟨s, hs, fun _ h => absurd h he, hn⟩

theorem head?_replicate_append {n : Nat} (h : 0 < n) : (List.replicate n ' ' ++ s).head? = some ' ' := by
  cases n
  case zero => cases h
  case succ => simp [List.replicate_succ]

-- What every mark adds. A plain one keeps a bar, and no slash gets behind spaces that wait.
theorem adds_write : ∃ s, p.Adds (p.write m) s ∧ (m.mark.IsPlain → (∀ t, Barred t → Barred (s ++ t)) ∧
    (0 < p.pending → s.head? ≠ some '/' ∧ (s = [] → 0 < (p.write m).pending))) := by
  have hw (text : List Char) (hp : 0 < p.pending) : (List.replicate p.pending ' ' ++ text).head? ≠ some '/' ∧
      (List.replicate p.pending ' ' ++ text = [] → 0 < (p.write m).pending) := by
    have hh := head?_replicate_append (s := text) hp
    exact ⟨by simp [hh], fun he => by simp [he] at hh⟩
  obtain ⟨mark, size⟩ := m
  cases mark
  case text t =>
    refine ⟨_, adds_put, fun (h : '/' ∉ t.toList) => ⟨fun _ => .append ?_, hw _⟩⟩
    simpa using h
  case comment t =>
    refine ⟨_, adds_put, fun ⟨c, ht, hc, hn⟩ => ⟨fun t h => ?_, hw _⟩⟩
    rw [ht, List.append_assoc]
    refine .append (by simp) <| .slashes ?_ (h.append hn)
    cases c
    case nil => exact absurd rfl hc
    case cons c _ => simpa using Ne.symm (List.ne_of_not_mem_cons hn)
  case wide => exact ⟨_, adds_put, fun _ => ⟨fun _ => .append (by simp), hw _⟩⟩
  case «break» b =>
    obtain ⟨s, hs, hp, hn⟩ := adds_break (p := p) (b := b) size
    refine ⟨s, hs, fun h => ⟨fun _ => .append (hn h), fun hb => ⟨fun hh => ?_, hp (Nat.lt_add_right _ hb)⟩⟩⟩
    exact hn h (List.mem_of_head? hh)
  all_goals
    refine ⟨[], ?_, fun _ => ⟨fun _ => id, fun hb => ⟨by simp, fun _ => ?_⟩⟩⟩ <;> simp only [write] <;> split
    all_goals first | rfl | exact hb

theorem adds_foldl (ms : List Measured) : ∃ s, p.Adds (ms.foldl write p) s := by
  induction ms generalizing p
  case nil => exact ⟨[], rfl⟩
  case cons m ms hi =>
    obtain ⟨s, hs, _⟩ := adds_write (p := p) (m := m)
    obtain ⟨t, ht⟩ := hi (p := p.write m)
    exact ⟨s ++ t, hs.trans ht⟩

end Page

namespace Document

-- The text that such a document is printed as is barred, and no slash gets behind spaces that wait.
theorem Barring.exists_adds {d : Document} (hd : d.Barring) {ms : List Measured} (h : ms.map (·.mark) = d)
    (p : Page) : ∃ s, p.Adds (ms.foldl Page.write p) s ∧ Barred s ∧ (0 < p.pending → s.head? ≠ some '/') := by
  induction hd generalizing ms p
  case comment t x y d ht hx hq hn hy hy' =>
    obtain ⟨⟨_, size⟩, ms, rfl, rfl, _⟩ := List.map_eq_cons_iff.mp h
    obtain ⟨s, hs⟩ := Page.adds_foldl (p := p.put t) ms
    refine ⟨_, Page.adds_put.trans hs, ?_, fun hp => ?_⟩
    case refine_1 =>
      rw [ht, List.append_assoc]
      have hy : (y ++ s).head? ≠ some '\n' := by cases y <;> simp_all
      have hb : '/' ∉ List.replicate p.pending ' ' := by simp
      simpa using (Barred.comment hx hq hn hy).append hb
    case refine_2 => simp [Page.head?_replicate_append hp]
  case plain m d hm hd hi =>
    obtain ⟨m, ms, rfl, rfl, hms⟩ := List.map_eq_cons_iff.mp h
    obtain ⟨s, hs, hw⟩ := Page.adds_write (p := p) (m := m)
    obtain ⟨hb, hp⟩ := hw hm
    obtain ⟨t, ht, hb', hp'⟩ := hi hms (p.write m)
    refine ⟨s ++ t, hs.trans ht, hb t hb', fun h => ?_⟩
    obtain ⟨hh, he⟩ := hp h
    cases s
    case nil => exact hp' (he rfl)
    case cons => exact hh
  case empty b d hb hm hd hi =>
    obtain ⟨⟨_, _⟩, _, rfl, rfl, ht⟩ := List.map_eq_cons_iff.mp h
    obtain ⟨⟨_, size⟩, ms, rfl, rfl, hms⟩ := List.map_eq_cons_iff.mp ht
    obtain ⟨s, hs, hp, hn⟩ := Page.adds_break (p := p.put "///") (b := b) size
    obtain ⟨t, ht, hb', hp'⟩ := hi hms ((p.put "///").write ⟨.break b, size⟩)
    refine ⟨_, Page.adds_put.trans (hs.trans ht), ?_, fun hp => ?_⟩
    case refine_1 =>
      have hh : (s ++ t).head? ≠ some '/' := by
        cases s
        case nil => exact hp' (hp (Nat.lt_add_left _ hb) rfl)
        case cons c _ => simpa using Ne.symm (List.ne_of_not_mem_cons (hn hm))
      have hs : '/' ∉ List.replicate p.pending ' ' := by simp
      simpa using (Barred.slashes hh (hb'.append (hn hm))).append hs
    case refine_2 => simp [Page.head?_replicate_append hp]

theorem Barring.print {d : Document} (h : d.Barring) : Barred d.print.toList := by
  obtain ⟨s, hs, hb, _⟩ := h.exists_adds d.marks_measured .blank
  have hp : d.print.toList = s := by
    have hs : (d.measured.foldl Page.write .blank).written = s.reverse ++ [] := hs
    simp [Document.print, Page.text, hs]
  exact hp ▸ hb

end Document

end EnvConfig.Layout
