import EnvConfig.Proofs.Generation
import EnvConfig.Proofs.Utf8
import EnvConfig.Samples
import Mathlib.Data.List.Basic

-- Runs on a given source, evaluated: the code of a module is read from the characters of its documents'
-- texts, as their octets are at hand.

namespace EnvConfig

open Source Layout

namespace Text

namespace Utf8

theorem decodeLossy_of_ascii {bs : List UInt8} (h : ∀ b ∈ bs, b < 128) :
    decodeLossy bs = bs.map fun b => Char.ofNat b.toNat := by
  induction bs
  case nil => simp
  case cons b bs hi =>
    obtain ⟨hb, h⟩ := List.forall_mem_cons.mp h
    have hf : first b.toNat = .char (Char.ofNat b.toNat) := if_pos (UInt8.lt_iff_toNat_lt.mp hb)
    have hi := hi h
    simp only [decodeLossy] at hi ⊢
    simp [pieces, pieces.fromStart, hf, hi, Piece.toChar]

end Utf8

-- The characters of a text. Where each is one octet, nothing has to be decoded.
def chars (text : String) : List Char :=
  let octets := text.toUTF8.data.toList
  if octets.all (· < 128) then octets.map fun b => Char.ofNat b.toNat else text.toList

theorem chars_eq_toList (text : String) : chars text = text.toList := by
  by_cases h : text.toUTF8.data.toList.all (· < 128)
  case neg => exact if_neg h
  case pos =>
    have ha : ∀ b ∈ text.toUTF8.data.toList, b < 128 := fun b hb => by simpa using List.all_eq_true.mp h b hb
    calc
      _ = text.toUTF8.data.toList.map fun b => Char.ofNat b.toNat := if_pos h
      _ = Utf8.decodeLossy text.toUTF8.data.toList := (Utf8.decodeLossy_of_ascii ha).symm
      _ = text.toList := Utf8.decodeLossy_encode text

end Text

namespace Layout.Document

def chars (d : Document) : List Char :=
  d.flatMap fun
    | .text t  => Text.chars t
    | .break b => Text.chars b.instead ++ if b.blanks = 0 then [] else [' ']
    | _        => []

theorem toList_flat (d : Document) : (flat d).toList = chars d := by
  rw [flat, String.toList_join, List.flatMap_map, chars]
  refine List.flatMap_congr fun m _ => ?_
  cases m <;> simp [Text.chars_eq_toList, apply_ite String.toList]

end Layout.Document

namespace Module

-- Whether the code of every item can be read.
def isReadable (m : Module) : Bool :=
  m.items.all fun i => (read file (content (Document.chars (itemCode m.types i.item)))).toOption.isSome

-- The module with a part of its items.
def part (m : Module) (f : List GatedItem → List GatedItem) : Module :=
  { m with items := f m.items }

theorem isReadable_of_parts {m : Module} {n : Nat} (h : (m.part (List.take n)).isReadable)
    (h' : (m.part (List.drop n)).isReadable) : m.isReadable := by
  rw [isReadable, ← List.take_append_drop n m.items, List.all_append]
  exact Bool.and_eq_true_iff.mpr ⟨h, h'⟩

theorem check_of_isReadable {m : Module} (h : m.isReadable) : m.check = .ok () := by
  refine forM_eq_ok.mpr fun i hi => ?_
  have hr := List.all_eq_true.mp h i hi
  rw [← Document.toList_flat] at hr
  obtain ⟨_, hr⟩ := exists_eq_ok hr
  rw [checkItem_eq, checkCode, readFile, hr]

end Module

namespace Generator

-- A run whose code is not read back.
def draft (g : Generator) (name source : String) : Except Problem Generated := do
  let project ← g.project?
  let options ← g.options
  let catalog ← catalog name source
  let flattened ← catalog.flatten g.root project
  Uniqueness.check flattened.leaves
  let module ← Module.build project flattened options
  return ⟨g.root, module, flattened.leaves⟩

theorem generate_of_draft {g : Generator} {name source : String} {out : Generated}
    (h : g.draft name source = .ok out) (hr : out.module.isReadable) : g.generate name source = .ok out := by
  simp only [draft, bind_eq_ok, pure_eq_ok] at h
  obtain ⟨project, hp, o, ho, c, hc, f, hf, _, hu, m, hm, rfl⟩ := h
  exact generate_eq_ok.mpr ⟨⟨project, o, c, f, m, hp, ho, hc, hf, hu, hm, Module.check_of_isReadable hr, rfl⟩⟩

theorem draft_of_generate {g : Generator} {name source : String} {out : Generated}
    (h : g.generate name source = .ok out) : g.draft name source = .ok out := by
  have ⟨s⟩ := generate_eq_ok.mp h
  simp only [draft, bind_eq_ok, pure_eq_ok]
  exact ⟨_, s.prefixed, _, s.given, _, s.declared, _, s.expanded, (), s.unique, _, s.built, s.result.symm⟩

end Generator

namespace Sample

-- A record that holds another one, whose type has the name that the enumeration gets as well. The prefix
-- has a carriage return in it.
def unruly : Sample where
  name      := "unruly"
  generator := (Generator.ofRoot "C").withProject "a\rb"
  source    := "struct C { e: CEnvError } struct CEnvError { n: i64 }"

-- The parts of the items are read by evaluations of their own, as each of them takes much memory.
theorem unruly_generates : ∃ out, unruly.generate = .ok out ∧ out.module.imports = ["C", "CEnvError"] := by
  obtain ⟨out, hd, hi⟩ := exists_of_any (x := unruly.generator.draft unruly.name unruly.source)
    (p := fun out => out.module.imports = ["C", "CEnvError"]) (by decide +kernel)
  have holds {p : Generated → Bool}
      (h : (unruly.generator.draft unruly.name unruly.source).toOption.any p) : p out := by
    rw [hd] at h
    exact h
  have report := holds (p := fun out => (out.module.part (List.take 5)).isReadable) (by decide +kernel)
  have failure := holds (p := fun out => (out.module.part fun is => (is.drop 5).take 5).isReadable)
    (by decide +kernel)
  have loader := holds (p := fun out => (out.module.part fun is => (is.drop 5).drop 5).isReadable)
    (by decide +kernel)
  have hr := Module.isReadable_of_parts report (Module.isReadable_of_parts failure loader)
  exact ⟨out, Generator.generate_of_draft hd hr, of_decide_eq_true hi⟩

end Sample
end EnvConfig
