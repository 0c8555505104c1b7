import Mathlib
import SqlTree.Proofs.Scalar.TypeText
import SqlTree.Scalar.Ident

/-!
# What the text of a dotted name tells

Points stand between the parts of a dotted name, but a quoted part may have points in it too, and
nothing inside quotation marks is escaped. A part is lexical if a reader can still find its end:
a bare part ends at the next point, a quoted one at the next mark of its own kind. Which of the two
a part is shows in its first character.

* `Ident.Spelling` is what is written of a part, and `Ident.Spelling.Lexical` says when its end can
  be found.
* `Ident.Spelling.text_append_inj`: a lexical part and what follows it can be told apart.
* `toList_dottedName`: a dotted name is written part by part, with a point before each part but the
  first.

Main statement: `dottedName_eq_iff_spelling_eq`.
-/

set_option autoImplicit false

namespace SqlTree

/-- A text ends where its first delimiter stands, if it has none inside. -/
theorem append_inj_of_delimiter {d : Char} {x y u v : List Char} (hx : d ∉ x) (hy : d ∉ y)
    (hu : ∀ c ∈ u.head?, c = d) (hv : ∀ c ∈ v.head?, c = d) (h : x ++ u = y ++ v) :
    x = y ∧ u = v := by
  have hinside : ∀ {z : List Char}, d ∉ z → ∀ c ∈ z, (c != d) = true := by
    intro z hz c hc
    rw [bne_iff_ne]
    exact fun hcd => hz (hcd ▸ hc)
  have hend : ∀ {w : List Char}, (∀ c ∈ w.head?, c = d) → ∀ c ∈ w.head?, (c != d) = false := by
    intro w hw c hc
    rw [hw c hc, bne_self_eq_false]
  exact append_inj_of_run (hinside hx) (hinside hy) (hend hu) (hend hv) h

namespace Ident

/-- What is written of a name: all but its span. -/
structure Spelling where
  value : String
  quote : Option Char
  deriving DecidableEq

/-- How a name is spelled. -/
def spelling (i : Ident) : Spelling :=
  ⟨i.value, i.quote⟩

namespace Spelling

/-- The marks that names are quoted in: the double quotation mark and the backquote. -/
def isMark (c : Char) : Bool :=
  c == '"' || c == '\x60'

/-- Whether the end of a part can be found in the text. A bare part has at least one character, no
point in it and no mark at its start. A quoted part is in one of the two marks and may hold any
text without this mark, also none. -/
def Lexical (s : Spelling) : Prop :=
  match s.quote with
  | none => s.value ≠ "" ∧ '.' ∉ s.value.toList ∧ s.value.toList.head?.any isMark = false
  | some q => isMark q = true ∧ q ∉ s.value.toList

instance : DecidablePred Lexical
  | ⟨value, none⟩ => inferInstanceAs (Decidable
      (value ≠ "" ∧ '.' ∉ value.toList ∧ value.toList.head?.any isMark = false))
  | ⟨value, some q⟩ => inferInstanceAs (Decidable (isMark q = true ∧ q ∉ value.toList))

/-- The part inside its marks. -/
def text (s : Spelling) : List Char :=
  s.quote.toList ++ (s.value.toList ++ s.quote.toList)

/-- The first character of a part tells whether it is quoted. -/
theorem Lexical.exists_text_eq_cons {s : Spelling} (hs : s.Lexical) :
    ∃ c cs, s.text = c :: cs ∧ isMark c = s.quote.isSome := by
  obtain ⟨value, _ | q⟩ := s
  · obtain ⟨hvalue, -, hhead⟩ := hs
    have hchars : value.toList ≠ [] := mt String.toList_eq_nil_iff.1 hvalue
    obtain ⟨c, cs, hcs⟩ := List.exists_cons_of_ne_nil hchars
    rw [hcs] at hhead
    exact ⟨c, cs, by simp [text, hcs], hhead⟩
  · exact ⟨q, value.toList ++ [q], rfl, hs.1⟩

/-- **The end of a part can be found.** If two lexical parts stand before a point or at the end of
the text, then the parts can be told apart from what follows them. -/
theorem text_append_inj {s t : Spelling} (hs : s.Lexical) (ht : t.Lexical) {u v : List Char}
    (hu : ∀ c ∈ u.head?, c = '.') (hv : ∀ c ∈ v.head?, c = '.')
    (h : s.text ++ u = t.text ++ v) : s = t ∧ u = v := by
  obtain ⟨c, cs, hc, hquoted⟩ := hs.exists_text_eq_cons
  obtain ⟨d, ds, hd, hquoted'⟩ := ht.exists_text_eq_cons
  have hcd : c = d := by
    rw [hc, hd] at h
    exact (List.cons.inj h).1
  -- the first characters agree, so the parts are both bare or both quoted
  have hsame : s.quote.isSome = t.quote.isSome := by rw [← hquoted, ← hquoted', hcd]
  obtain ⟨x, q⟩ := s
  obtain ⟨y, r⟩ := t
  cases q with
  | none =>
    cases r with
    | none =>
      obtain ⟨-, hx, -⟩ := hs
      obtain ⟨-, hy, -⟩ := ht
      have hrun : x.toList ++ u = y.toList ++ v := by simpa [text] using h
      obtain ⟨hvalue, hrest⟩ := append_inj_of_delimiter hx hy hu hv hrun
      obtain rfl : x = y := String.toList_inj.1 hvalue
      exact ⟨rfl, hrest⟩
    | some r => cases hsame
  | some q =>
    cases r with
    | none => cases hsame
    | some r =>
      obtain ⟨hqr, hrun⟩ : q = r ∧ x.toList ++ q :: u = y.toList ++ r :: v := by
        simpa [text] using h
      subst hqr
      -- here the closing mark is the delimiter, so points inside the part do no harm
      obtain ⟨hvalue, hrest⟩ := append_inj_of_delimiter hs.2 ht.2 (by simp) (by simp) hrun
      obtain rfl : x = y := String.toList_inj.1 hvalue
      exact ⟨rfl, (List.cons.inj hrest).2⟩

/-! ### Lists of parts -/

/-- The parts with a point before each of them. -/
def pointed (parts : List Spelling) : List Char :=
  parts.flatMap fun s => '.' :: s.text

theorem pointed_cons (s : Spelling) (parts : List Spelling) :
    pointed (s :: parts) = '.' :: (s.text ++ pointed parts) := by
  simp [pointed]

theorem head?_pointed (parts : List Spelling) : ∀ c ∈ (pointed parts).head?, c = '.' := by
  cases parts with
  | nil => simp [pointed]
  | cons s parts => simp [pointed_cons]

theorem pointed_inj {xs ys : List Spelling} (hxs : ∀ s ∈ xs, s.Lexical)
    (hys : ∀ s ∈ ys, s.Lexical) (h : pointed xs = pointed ys) : xs = ys := by
  induction xs generalizing ys with
  | nil =>
    cases ys with
    | nil => rfl
    | cons t ys => cases h
  | cons s xs ih =>
    cases ys with
    | nil => cases h
    | cons t ys =>
      rw [List.forall_mem_cons] at hxs hys
      rw [pointed_cons, pointed_cons] at h
      obtain ⟨rfl, hrest⟩ := text_append_inj hxs.1 hys.1 (head?_pointed xs) (head?_pointed ys)
        (List.cons.inj h).2
      rw [ih hxs.2 hys.2 hrest]

/-- The point before the first part can be spared: only the name without parts has no text. -/
theorem tail_pointed_inj {xs ys : List Spelling} (hxs : ∀ s ∈ xs, s.Lexical)
    (hys : ∀ s ∈ ys, s.Lexical) (h : (pointed xs).tail = (pointed ys).tail) : xs = ys := by
  have hne : ∀ {s : Spelling} {parts : List Spelling}, s.Lexical →
      (pointed (s :: parts)).tail ≠ [] := by
    intro s parts hs
    obtain ⟨c, cs, hc, -⟩ := hs.exists_text_eq_cons
    simp [pointed_cons, hc]
  cases xs with
  | nil =>
    cases ys with
    | nil => rfl
    | cons t ys => exact absurd h.symm (hne (hys t List.mem_cons_self))
  | cons s xs =>
    cases ys with
    | nil => exact absurd h (hne (hxs s List.mem_cons_self))
    | cons t ys => exact pointed_inj hxs hys (congrArg (List.cons '.') h)

end Spelling

theorem toList_display (i : Ident) : i.display.toList = i.spelling.text := by
  obtain ⟨value, _ | q, span⟩ := i <;> simp [display, spelling, Spelling.text]

end Ident

open Ident.Spelling

/-- **A dotted name is written as it is spelled**, part by part, with a point before each part but
the first. -/
theorem toList_dottedName (parts : List Ident) :
    (dottedName parts).toList = (pointed (parts.map Ident.spelling)).tail := by
  fun_induction dottedName parts with
  | case1 => rfl
  | case2 i => simp [pointed, i.toList_display]
  | case3 i rest hrest ih =>
    obtain ⟨j, rest, rfl⟩ := List.exists_cons_of_ne_nil hrest
    have hpoint : pointed ((j :: rest).map Ident.spelling) =
        '.' :: (dottedName (j :: rest)).toList := by rw [ih]; rfl
    rw [List.map_cons, pointed_cons, hpoint]
    simp [i.toList_display]

/-- **Dotted names are unambiguous.** If all their parts are lexical, then two dotted names are
written alike exactly if they have the same parts in the same order, each with the same text and
the same quotation mark. -/
theorem dottedName_eq_iff_spelling_eq (a b : List Ident) (ha : ∀ i ∈ a, i.spelling.Lexical)
    (hb : ∀ i ∈ b, i.spelling.Lexical) :
    dottedName a = dottedName b ↔ a.map Ident.spelling = b.map Ident.spelling := by
  rw [← String.toList_inj, toList_dottedName, toList_dottedName]
  constructor
  · intro h
    exact tail_pointed_inj (List.forall_mem_map.2 ha) (List.forall_mem_map.2 hb) h
  · intro h
    rw [h]

/-- A point and the other mark inside a quoted part, and a quoted part without text: where the
parts came from is forgotten, how they are split is not. -/
theorem dottedName_eq_iff_split :
    let a : List Ident := [⟨"s", none, ⟨0, 1⟩⟩, ⟨"t.\x60u", some '"', ⟨2, 8⟩⟩,
      ⟨"", some '\x60', ⟨9, 11⟩⟩]
    let b : List Ident := [⟨"s", none, {}⟩, ⟨"t.\x60u", some '"', {}⟩, ⟨"", some '\x60', {}⟩]
    let c : List Ident := [⟨"s", none, {}⟩, ⟨"t", none, {}⟩, ⟨"u", some '\x60', {}⟩]
    (∀ i ∈ a, i.spelling.Lexical) ∧ (∀ i ∈ b, i.spelling.Lexical) ∧
    (∀ i ∈ c, i.spelling.Lexical) ∧ a ≠ b ∧ dottedName a = dottedName b ∧
    dottedName a ≠ dottedName c := by
  intro a b c
  have ha : ∀ i ∈ a, i.spelling.Lexical := by decide
  have hb : ∀ i ∈ b, i.spelling.Lexical := by decide
  have hc : ∀ i ∈ c, i.spelling.Lexical := by decide
  refine ⟨ha, hb, hc, by decide, (dottedName_eq_iff_spelling_eq a b ha hb).2 rfl, fun h => ?_⟩
  exact absurd ((dottedName_eq_iff_spelling_eq a c ha hc).1 h) (by decide)

end SqlTree
