import EnvConfig.Proofs.Printing

-- A document of lines that end in any case is printed piece by piece: what stands on the lines of one piece
-- is the same whatever stands around them.

namespace EnvConfig.Layout

-- How many groups are open behind a mark, if so many are in front of it. Only an open group can be closed.
def Mark.depth (n : Nat) : Mark → Option Nat
  | .open .. => some (n + 1)
  | .close   => if n = 0 then none else some (n - 1)
  | _        => some n

namespace Document

variable {d d' separator : Document} {ds : List Document} {n k : Nat} {b : Break} {t : String} {indent : Int}
variable {consistent : Bool}

def depth (d : Document) (n : Nat) : Option Nat :=
  d.foldlM Mark.depth n

-- Every group that is opened is closed, and no other one.
class IsBalanced (d : Document) : Prop where
  depth_eq : ∀ n, d.depth n = some n

class AllBalanced (ds : List Document) : Prop where
  isBalanced : ∀ d ∈ ds, d.IsBalanced

theorem depth_append : (d ++ d').depth n = d.depth n >>= d'.depth :=
  List.foldlM_append

theorem depth_cons {m : Mark} : depth (m :: d) n = Mark.depth n m >>= d.depth :=
  List.foldlM_cons

namespace IsBalanced

instance nil : IsBalanced [] where
  depth_eq _ := rfl

instance text : IsBalanced (text t) where
  depth_eq _ := rfl

instance comment : IsBalanced (comment t) where
  depth_eq _ := rfl

instance breaking : IsBalanced (breaking b) where
  depth_eq _ := rfl

instance wide : IsBalanced [.wide] where
  depth_eq _ := rfl

instance space : IsBalanced space :=
  breaking

instance zero : IsBalanced zero :=
  breaking

instance never : IsBalanced never :=
  breaking

instance line : IsBalanced line :=
  breaking

instance lastLine : IsBalanced lastLine :=
  breaking

instance innerLine : IsBalanced innerLine :=
  breaking

instance trailingComma {blanks : Nat} : IsBalanced (trailingComma blanks) :=
  breaking

instance append [h : d.IsBalanced] [h' : d'.IsBalanced] : IsBalanced (d ++ d') where
  depth_eq n := by
    rw [depth_append, h.depth_eq]
    exact h'.depth_eq n

instance ite {c : Prop} [Decidable c] [d.IsBalanced] [d'.IsBalanced] : IsBalanced (if c then d else d') := by
  split <;> infer_instance

-- What is left without a break at the end.
theorem of_append_breaking (h : IsBalanced (d ++ Document.breaking b)) : d.IsBalanced where
  depth_eq n := by
    have hb : depth (Document.breaking b) = some := rfl
    have hn := h.depth_eq n
    rw [depth_append, hb] at hn
    simpa using hn

instance withoutInnerBreak [h : d.IsBalanced] : IsBalanced (withoutInnerBreak d) := by
  unfold Document.withoutInnerBreak
  split
  case h_2 => exact h
  case h_1 b hb =>
    have hd : d = d.dropLast ++ Document.breaking b := (List.dropLast_append_getLast? _ hb).symm
    have : IsBalanced d.dropLast := of_append_breaking (hd ▸ h)
    split <;> infer_instance

instance enclose [h : d.IsBalanced] : IsBalanced (enclose indent consistent d) := by
  unfold Document.enclose
  split
  case h_1 => exact nil
  case h_2 =>
    refine ⟨fun n => ?_⟩
    have hw : depth (Document.withoutInnerBreak d) (n + 1) = some (n + 1) := withoutInnerBreak.depth_eq _
    calc
      _ = depth (Document.withoutInnerBreak d ++ [.close]) (n + 1) := by
        rw [List.cons_append, depth_cons]
        rfl
      _ = depth [.close] (n + 1) := by
        rw [depth_append, hw]
        rfl
      _ = some n := rfl

instance together [d.IsBalanced] : IsBalanced (together indent d) :=
  enclose

instance filled [d.IsBalanced] : IsBalanced (filled indent d) :=
  enclose

theorem of_flatMap {α : Type} {l : List α} {f : α → Document} (h : ∀ a ∈ l, IsBalanced (f a)) :
    IsBalanced (l.flatMap f) := by
  induction l
  case nil => exact nil
  case cons a l hi =>
    have ⟨ha, h⟩ := List.forall_mem_cons.mp h
    have := hi h
    rw [List.flatMap_cons]
    exact append

instance flatMap {α : Type} {l : List α} {f : α → Document} [h : ∀ a, IsBalanced (f a)] :
    IsBalanced (l.flatMap f) :=
  of_flatMap fun a _ => h a

end IsBalanced

namespace AllBalanced

instance nil : AllBalanced [] where
  isBalanced := nofun

instance cons [d.IsBalanced] [h : AllBalanced ds] : AllBalanced (d :: ds) where
  isBalanced := List.forall_mem_cons.mpr ⟨inferInstance, h.isBalanced⟩

instance append {ds' : List Document} [h : AllBalanced ds] [h' : AllBalanced ds'] :
    AllBalanced (ds ++ ds') where
  isBalanced := List.forall_mem_append.mpr ⟨h.isBalanced, h'.isBalanced⟩

instance map {α : Type} {l : List α} {f : α → Document} [h : ∀ a, IsBalanced (f a)] :
    AllBalanced (l.map f) where
  isBalanced := List.forall_mem_map.mpr fun a _ => h a

theorem separatedBy_of_forall [separator.IsBalanced] (h : ∀ d ∈ ds, d.IsBalanced) :
    IsBalanced (Document.separatedBy separator ds) := by
  induction ds using separatedBy.induct
  case case1 => exact .nil
  case case2 d => exact h d (.head _)
  case case3 d ds hn hi =>
    have ⟨hd, h⟩ := List.forall_mem_cons.mp h
    have := hi h
    rw [Document.separatedBy]
    case x_1 => exact hn
    infer_instance

instance separatedBy [separator.IsBalanced] [h : AllBalanced ds] :
    IsBalanced (separatedBy separator ds) :=
  separatedBy_of_forall h.isBalanced

instance commaSeparated [AllBalanced ds] : IsBalanced (commaSeparated ds) := by
  unfold Document.commaSeparated
  split <;> infer_instance

end AllBalanced
end Document

-- What a mark does with the measures of the groups around it. It looks at those alone that are open in front
-- of it or behind it.
theorem Measure.exists_step {m : Mark} {n k : Nat} (h : m.depth n = some k) {ws : List Nat}
    (hl : ws.length = k + 1) : ∃ size ws', ws'.length = n + 1 ∧ ∀ ms outer,
      Measure.step m ⟨ms, ws ++ outer⟩ = ⟨⟨m, size⟩ :: ms, ws' ++ outer.map (· + m.width)⟩ := by
  cases m
  case «break» b =>
    obtain ⟨w, ws, rfl⟩ := List.exists_cons_of_length_eq_add_one hl
    cases h
    exact ⟨w + b.blanks, 0 :: ws.map (· + b.blanks), by simpa using hl, by simp [step, Mark.width]⟩
  case «open» =>
    obtain ⟨_, ws, rfl⟩ := List.exists_cons_of_length_eq_add_one hl
    cases h
    obtain ⟨w, ws, rfl⟩ := List.exists_cons_of_length_eq_add_one (Nat.succ.inj hl)
    exact ⟨w, w :: ws, by simpa using hl, by simp [step, Mark.width]⟩
  case close =>
    obtain ⟨w, ws, rfl⟩ := List.exists_cons_of_length_eq_add_one hl
    have ⟨hn, hk⟩ : n ≠ 0 ∧ n - 1 = k := by simpa [Mark.depth] using h
    exact ⟨0, w :: w :: ws, by grind, by simp [step, Mark.width]⟩
  all_goals
    cases h
    exact ⟨_, ws.map _, by simpa using hl, fun ms outer => congrArg (Measure.mk _) List.map_append⟩

namespace Document

variable {d d' : Document} {n k w : Nat}

theorem exists_foldr_step (h : d.depth n = some k) {ws : List Nat} (hl : ws.length = k + 1) :
    ∃ ms ws', ws'.length = n + 1 ∧ ∀ ms' outer, d.foldr Measure.step ⟨ms', ws ++ outer⟩ =
      ⟨ms ++ ms', ws' ++ outer.map (· + d.width)⟩ := by
  induction d generalizing n
  case nil =>
    cases h
    exact ⟨[], ws, hl, by simp [width]⟩
  case cons m d hi =>
    rw [depth_cons, Option.bind_eq_bind, Option.bind_eq_some_iff] at h
    obtain ⟨j, hm, h⟩ := h
    obtain ⟨ms, ws', hl', hi⟩ := hi h
    obtain ⟨size, ws'', hl'', hs⟩ := Measure.exists_step hm hl'
    refine ⟨⟨m, size⟩ :: ms, ws'', hl'', fun ms' outer => ?_⟩
    rw [List.foldr_cons, hi, hs, List.map_map]
    simp [width, Function.comp_def, Nat.add_assoc, Nat.add_comm]

-- The marks with their measures, if so much is to be written behind them before a line may end.
def measuredFrom (w : Nat) (d : Document) : List Measured :=
  (d.foldr Measure.step ⟨[], [w]⟩).marks

theorem IsBalanced.foldr_step (h : d.IsBalanced) (w : Nat) : ∃ w', ∀ ms outer,
    d.foldr Measure.step ⟨ms, w :: outer⟩ =
      ⟨d.measuredFrom w ++ ms, w' :: outer.map (· + d.width)⟩ := by
  obtain ⟨ms, ws, hl, hs⟩ := exists_foldr_step (h.depth_eq 0) (show [w].length = 0 + 1 from rfl)
  obtain ⟨w', rfl⟩ := List.length_eq_one_iff.mp hl
  have hm : d.measuredFrom w = ms := by
    have hn := hs [] []
    rw [List.append_nil] at hn
    simp [measuredFrom, hn]
  exact ⟨w', hm ▸ hs⟩

theorem IsBalanced.measuredFrom_append (h : d.IsBalanced) (h' : d'.IsBalanced) (w : Nat) :
    ∃ w', (d ++ d').measuredFrom w = d.measuredFrom w' ++ d'.measuredFrom w := by
  obtain ⟨w', h'⟩ := h'.foldr_step w
  obtain ⟨_, h⟩ := h.foldr_step w'
  refine ⟨w', ?_⟩
  rw [measuredFrom, List.foldr_append, h', h, List.append_nil]

end Document

namespace Page

variable {p : Page} {m : Measured} {ms : List Measured} {fs outer : List Frame} {n k : Nat} {b : Break}
  {t : String} {before : List Char}

-- The same page with something in front of what has been written.
def onto (before : List Char) (p : Page) : Page :=
  { p with written := p.written ++ before }

theorem put_onto : (p.onto before).put t = (p.put t).onto before := by
  simp [onto, put]

theorem putMark_onto : (p.onto before).putMark t = (p.putMark t).onto before := by
  unfold putMark
  split
  case isTrue  => rfl
  case isFalse => simp [onto, put]

theorem endLine_onto : (p.onto before).endLine b = (p.endLine b).onto before := by
  simp only [endLine, putMark_onto]
  split
  case isTrue  => rfl
  case isFalse => simp [onto, put]

-- What is written does not depend on what has been written before.
theorem write_onto : (p.onto before).write m = (p.write m).onto before := by
  obtain ⟨mark, size⟩ := m
  cases mark
  case text    => exact put_onto
  case comment => exact put_onto
  case wide    => exact put_onto
  case «break» b =>
    have hf : (p.onto before).breakFits b size = p.breakFits b size := rfl
    simp only [write, hf]
    split
    case isTrue  => simp [stayOnLine, onto]
    case isFalse => exact endLine_onto
  case «open» =>
    by_cases h : (size : Int) > p.space <;> simp [write, onto, h]
  case close =>
    simp only [write, onto]
    split
    all_goals rfl

theorem foldl_write_onto : ms.foldl write (p.onto before) = (ms.foldl write p).onto before := by
  induction ms generalizing p
  case nil => rfl
  case cons m ms hi => rw [List.foldl_cons, write_onto, hi, List.foldl_cons]

-- The indentation outside of the groups that are being written.
def outerIndent (indent : Int) (fs : List Frame) : Int :=
  fs.foldl (fun indent f =>
    match f with
    | .fits           => indent
    | .broken outer _ => outer) indent

theorem putMark_eq : (p.putMark t).frames = p.frames ∧ (p.putMark t).indent = p.indent := by
  unfold putMark
  split <;> exact ⟨rfl, rfl⟩

theorem endLine_eq : (p.endLine b).frames = p.frames ∧ (p.endLine b).indent = p.indent := by
  simp only [endLine]
  split <;> exact putMark_eq

-- A mark opens a group, closes the last one, or leaves them as they are.
theorem frames_write (h : m.mark.depth n = some k) (hp : p.frames = fs ++ outer) (hl : fs.length = n) :
    ∃ fs', (p.write m).frames = fs' ++ outer ∧ fs'.length = k ∧
      outerIndent (p.write m).indent fs' = outerIndent p.indent fs := by
  obtain ⟨mark, size⟩ := m
  cases mark
  case «break» b =>
    cases h
    have hw : (p.write ⟨.break b, size⟩).frames = p.frames ∧
        (p.write ⟨.break b, size⟩).indent = p.indent := by
      simp only [write]
      split
      case isTrue  => exact ⟨rfl, rfl⟩
      case isFalse => exact endLine_eq
    exact ⟨fs, hw.left.trans hp, hl, by rw [hw.right]⟩
  case «open» indent consistent =>
    cases h
    simp only [write]
    split
    case isTrue  => exact ⟨.broken p.indent consistent :: fs, by simp [hp], by simp [hl], rfl⟩
    case isFalse => exact ⟨.fits :: fs, by simp [hp], by simp [hl], rfl⟩
  case close =>
    obtain ⟨hn, hk⟩ : n ≠ 0 ∧ n - 1 = k := by simpa [Mark.depth] using h
    obtain ⟨f, fs, rfl⟩ := List.exists_cons_of_length_pos (hl ▸ Nat.pos_of_ne_zero hn)
    cases f
    case fits => exact ⟨fs, by simp [write, hp], by grind, by simp [write, hp, outerIndent]⟩
    case broken => exact ⟨fs, by simp [write, hp], by grind, by simp [write, hp, outerIndent]⟩
  all_goals
    cases h
    exact ⟨fs, hp, hl, rfl⟩

theorem frames_foldl_write (h : Document.depth (ms.map (·.mark)) n = some k) (hp : p.frames = fs ++ outer)
    (hl : fs.length = n) : ∃ fs', (ms.foldl write p).frames = fs' ++ outer ∧ fs'.length = k ∧
      outerIndent (ms.foldl write p).indent fs' = outerIndent p.indent fs := by
  induction ms generalizing p fs n
  case nil =>
    cases h
    exact ⟨fs, hp, hl, rfl⟩
  case cons m ms hi =>
    rw [List.map_cons, Document.depth_cons, Option.bind_eq_bind, Option.bind_eq_some_iff] at h
    obtain ⟨j, hm, h⟩ := h
    obtain ⟨fs', hp', hl', hi'⟩ := frames_write hm hp hl
    obtain ⟨fs'', hp'', hl'', hi''⟩ := hi h hp' hl'
    exact ⟨fs'', hp'', hl'', hi''.trans hi'⟩

-- A page for the lines of a group whose breaks all end the line and which is not indented.
def top : Page where
  written := []
  space   := margin
  indent  := 0
  pending := 0
  frames  := [.broken 0 true]

-- Nothing is left of a line behind its end.
theorem write_break (hf : p.frames = top.frames) (hi : p.indent = 0) {blanks size : Nat} :
    p.write ⟨.break { blanks := blanks }, size⟩ = top.onto ('\n' :: p.written) := by
  have hb : p.breakFits { blanks := blanks } size = false := by simp [breakFits, hf, top]
  have hs : max margin leastSpace = margin := by decide
  simp [write, hb, endLine, putMark, onto, hf, hi, top, hs]

end Page

namespace Document

variable {d : Document} {before : List Char} {w : Nat}

-- What is written of a document on such a page, with the end of its last line.
def paragraph (d : Document) : List Char :=
  ((d.measuredFrom 0).foldl Page.write .top).written.reverse ++ ['\n']

-- Documents with a break behind each.
def paragraphs (ds : List (Document × Nat)) : Document :=
  ds.flatMap fun (d, blanks) => d ++ breaking { blanks := blanks }

theorem foldl_write_paragraph (h : d.IsBalanced) (blanks : Nat) :
    ((d ++ breaking { blanks := blanks }).measuredFrom w).foldl Page.write (Page.top.onto before) =
      Page.top.onto (d.paragraph.reverse ++ before) := by
  have hm : (d ++ breaking { blanks := blanks }).measuredFrom w =
      d.measuredFrom 0 ++ [⟨.break { blanks := blanks }, w + blanks⟩] := by
    obtain ⟨_, h⟩ := h.foldr_step 0
    rw [measuredFrom, List.foldr_append]
    exact congrArg Measure.marks (h _ [])
  have hd : depth ((d.measuredFrom 0).map (·.mark)) 0 = some 0 := by
    simpa [measuredFrom, marks_foldr] using h.depth_eq 0
  have ht : Page.top.frames = [] ++ Page.top.frames := rfl
  obtain ⟨fs, hf, hl, hi⟩ := Page.frames_foldl_write hd ht rfl
  obtain rfl := List.eq_nil_of_length_eq_zero hl
  rw [hm, List.foldl_append, Page.foldl_write_onto, List.foldl_cons, Page.write_onto, Page.write_break hf hi]
  simp [paragraph, Page.onto, List.foldl_nil]

theorem isBalanced_paragraphs {ds : List (Document × Nat)} (h : ∀ d ∈ ds, d.1.IsBalanced) :
    IsBalanced (paragraphs ds) :=
  .of_flatMap fun d hd =>
    have := h d hd
    .append

theorem foldl_write_paragraphs {ds : List (Document × Nat)} (h : ∀ d ∈ ds, d.1.IsBalanced) :
    ((paragraphs ds).measuredFrom w).foldl Page.write (Page.top.onto before) =
      Page.top.onto ((ds.flatMap (·.1.paragraph)).reverse ++ before) := by
  induction ds generalizing w before
  case nil => rfl
  case cons d ds hi =>
    have ⟨hd, h⟩ := List.forall_mem_cons.mp h
    have hb : IsBalanced (d.1 ++ breaking { blanks := d.2 }) := .append
    obtain ⟨w', hm⟩ := hb.measuredFrom_append (isBalanced_paragraphs h) w
    calc
      _ = ((d.1 ++ breaking { blanks := d.2 } ++ paragraphs ds).measuredFrom w).foldl Page.write
          (Page.top.onto before) := rfl
      _ = ((paragraphs ds).measuredFrom w).foldl Page.write
          (Page.top.onto (d.1.paragraph.reverse ++ before)) := by
        rw [hm, List.foldl_append, foldl_write_paragraph hd]
      _ = _ := by
        rw [hi h, List.flatMap_cons, List.reverse_append, List.append_assoc]

-- A group of paragraphs one of which has a line that ends in any case.
theorem print_paragraphs {ds : List (Document × Nat)} (h : ∀ d ∈ ds, d.1.IsBalanced)
    (hw : margin < (paragraphs ds).width) :
    print (.open 0 true :: paragraphs ds ++ [.close]) = String.ofList (ds.flatMap (·.1.paragraph)) := by
  obtain ⟨w', hs⟩ := (isBalanced_paragraphs h).foldr_step 0
  have hm : measured (.open 0 true :: paragraphs ds ++ [.close]) =
      ⟨.open 0 true, (paragraphs ds).width⟩ :: (paragraphs ds).measuredFrom 0 ++ [⟨.close, 0⟩] := by
    have hc : ([.close] : Document).foldr Measure.step ⟨[], [0]⟩ = ⟨[⟨.close, 0⟩], [0, 0]⟩ := rfl
    rw [measured, List.cons_append, List.foldr_cons, List.foldr_append, hc, hs]
    simp [Measure.step]
  have ho : Page.write .blank ⟨.open 0 true, (paragraphs ds).width⟩ = Page.top.onto [] := by
    simp [Page.write, Page.blank, hw, Page.onto, Page.top]
  rw [print, hm, List.cons_append, List.foldl_cons, ho, List.foldl_append, foldl_write_paragraphs h]
  simp [Page.write, Page.onto, Page.top, Page.text]

theorem width_append {d d' : Document} : width (d ++ d') = d.width + d'.width := by
  induction d
  case nil => simp [width]
  case cons m d hi => simp [width, hi, Nat.add_assoc]

theorem le_width_paragraphs {ds : List (Document × Nat)} : ∀ d ∈ ds, d.2 ≤ (paragraphs ds).width := by
  induction ds
  case nil => simp
  case cons d ds hi =>
    have hw : (paragraphs (d :: ds)).width = d.1.width + d.2 + (paragraphs ds).width := by
      rw [paragraphs, List.flatMap_cons, width_append, width_append]
      rfl
    refine List.forall_mem_cons.mpr ⟨?_, fun d hd => ?_⟩
    case refine_1 => omega
    case refine_2 =>
      have := hi d hd
      omega

theorem together_paragraphs {ds : List (Document × Nat)} (hn : ∀ d ∈ ds, d.1 ≠ []) :
    together 0 (paragraphs ds) = .open 0 true :: paragraphs ds ++ [.close] := by
  have hw : withoutInnerBreak (paragraphs ds) = paragraphs ds := by
    obtain rfl | ⟨ds, d, rfl⟩ := List.eq_nil_or_concat ds
    case inl => rfl
    case inr => simp [withoutInnerBreak, paragraphs, breaking]
  unfold together enclose
  split
  case h_2 => rw [hw]
  case h_1 he =>
    -- There are at least two marks.
    cases ds
    case nil => cases he
    case cons d ds =>
      have hd := List.length_pos_iff.mpr (hn d (.head _))
      have hl := congrArg List.length he
      simp [paragraphs, breaking] at hl
      omega

-- The text of a document that has its lines for itself.
def alone (d : Document) : String :=
  print (together 0 (d ++ line))

section

variable {ds : List (Document × Nat)}
variable (h : ∀ d ∈ ds, d.1.IsBalanced ∧ d.1 ≠ []) (hl : ∃ d ∈ ds, d.2 = infinite)
include h hl

theorem print_together :
    print (together 0 (paragraphs ds)) = String.ofList (ds.flatMap (·.1.paragraph)) := by
  obtain ⟨d, hd, hi⟩ := hl
  have hw : infinite ≤ (paragraphs ds).width := hi ▸ le_width_paragraphs d hd
  have hw : margin < (paragraphs ds).width := by
    simp only [infinite, margin] at hw ⊢
    omega
  rw [together_paragraphs fun d hd => (h d hd).right, print_paragraphs (fun d hd => (h d hd).left) hw]

theorem print_eq_join : print (together 0 (paragraphs ds)) = String.join (ds.map (·.1.alone)) := by
  have ha (d : Document) (hd : d.IsBalanced ∧ d ≠ []) : d.alone.toList = d.paragraph := by
    have hp : d ++ line = paragraphs [(d, infinite)] := by simp [paragraphs, line]
    rw [alone, hp, print_together (by simpa using hd) (by simp)]
    simp
  refine String.toList_inj.mp ?_
  rw [print_together h hl, String.toList_ofList, String.toList_join, List.flatMap_map]
  exact List.flatMap_congr fun d hd => (ha d.1 (h d hd)).symm

end

end Document
end EnvConfig.Layout
