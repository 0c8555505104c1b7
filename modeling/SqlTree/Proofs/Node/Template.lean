import SqlTree.Dump

/-!
# Texts with gaps

A template is a text with gaps, into which further texts are filled from left to right. The texts
between the gaps are its separators: they belong to the template and not to what is filled in.

* `Template.fill` fills a template, `Template.separators` lists the texts around its gaps, and
  `Template.interleave_separators` says that filling is interleaving with them.
* `Template.Shows` says that a template, filled with some texts, gives a text. It is closed under
  putting templates side by side.
* `Template.plug` fills a template with templates: `Template.Shows.plug`.
* `Template.around` brackets the templates of some parts, in the way in which a dump brackets its
  parts: `Template.ShowsAll.group`.
-/

set_option autoImplicit false

namespace SqlTree

/-- Takes texts in turn from two lists, beginning with the first: `s₀ t₁ s₁ t₂ s₂ ...`. -/
def interleave : List String → List String → String
  | [], _ => ""
  | s :: _, [] => s
  | s :: ss, t :: ts => s ++ t ++ interleave ss ts

/-- A piece of a text: words, or a gap. -/
inductive Piece where
  | words (text : String)
  | gap
  deriving DecidableEq

/-- A text with gaps. -/
abbrev Template := List Piece

namespace Template

/-- The number of gaps. -/
def gaps (ps : Template) : Nat :=
  ps.count .gap

/-- Fills the gaps from left to right. A gap for which there is no text stays empty. -/
def fill : Template → List String → String
  | [], _ => ""
  | .words text :: ps, ts => text ++ fill ps ts
  | .gap :: ps, t :: ts => t ++ fill ps ts
  | .gap :: ps, [] => fill ps []

/-- The texts before, between and after the gaps. -/
def separators : Template → List String
  | [] => [""]
  | .words text :: ps => (separators ps).modifyHead (text ++ ·)
  | .gap :: ps => "" :: separators ps

/-- There is one separator more than there are gaps. -/
theorem length_separators (ps : Template) : ps.separators.length = ps.gaps + 1 := by
  induction ps with
  | nil => rfl
  | cons piece ps ih =>
    cases piece with
    | words text => simpa [separators, gaps] using ih
    | gap => simpa [separators, gaps] using ih

theorem interleave_modifyHead (text : String) {ss : List String} (hss : ss ≠ [])
    (ts : List String) : interleave (ss.modifyHead (text ++ ·)) ts = text ++ interleave ss ts := by
  cases ss with
  | nil => exact absurd rfl hss
  | cons s ss => cases ts <;> simp [interleave, String.append_assoc]

/-- Filling a template is interleaving its separators with the texts. -/
theorem interleave_separators (ps : Template) {ts : List String} (hts : ts.length = ps.gaps) :
    interleave ps.separators ts = ps.fill ts := by
  induction ps generalizing ts with
  | nil =>
    obtain rfl : ts = [] := List.eq_nil_of_length_eq_zero hts
    rfl
  | cons piece ps ih =>
    have hne : separators ps ≠ [] := List.ne_nil_of_length_eq_add_one (length_separators ps)
    cases piece with
    | words text =>
      rw [separators, interleave_modifyHead text hne, ih (by simpa [gaps] using hts), fill]
    | gap =>
      cases ts with
      | nil => simp [gaps] at hts
      | cons t ts =>
        rw [separators, interleave, ih (by simpa [gaps] using hts), fill, String.empty_append]

/-! ### What a template shows -/

/-- Filled with the texts, one for each gap, the template gives the text. -/
structure Shows (ps : Template) (ts : List String) (s : String) : Prop where
  length_eq : ts.length = ps.gaps
  fill_eq : ps.fill ts = s

namespace Shows

theorem words (text : String) : Shows [.words text] [] text :=
  ⟨rfl, String.append_empty⟩

theorem gap (t : String) : Shows [.gap] [t] t :=
  ⟨rfl, String.append_empty⟩

/-- Templates side by side. -/
theorem append {ps qs : Template} {us vs : List String} {a b : String} (hps : Shows ps us a)
    (hqs : Shows qs vs b) : Shows (ps ++ qs) (us ++ vs) (a ++ b) := by
  obtain ⟨hus, rfl⟩ := hps
  obtain ⟨hvs, rfl⟩ := hqs
  refine ⟨by simp [gaps, hus, hvs], ?_⟩
  induction ps generalizing us with
  | nil =>
    obtain rfl : us = [] := List.eq_nil_of_length_eq_zero hus
    simp [fill]
  | cons piece ps ih =>
    cases piece with
    | words text =>
      rw [List.cons_append, fill, fill, ih (by simpa [gaps] using hus), String.append_assoc]
    | gap =>
      cases us with
      | nil => simp [gaps] at hus
      | cons u us =>
        rw [List.cons_append, List.cons_append, fill, fill, ih (by simpa [gaps] using hus),
          String.append_assoc]

/-- The text is interleaved from the separators of the template. -/
theorem eq_interleave {ps : Template} {ts : List String} {s : String} (hps : Shows ps ts s) :
    ps.separators.length = ts.length + 1 ∧ s = interleave ps.separators ts := by
  obtain ⟨hts, rfl⟩ := hps
  exact ⟨by rw [length_separators, hts], (interleave_separators ps hts).symm⟩

end Shows

/-! ### Templates in templates -/

/-- Fills the gaps with templates from left to right. A gap for which there is no template stays
open. -/
def plug : Template → List Template → Template
  | [], _ => []
  | .words text :: ps, qss => .words text :: plug ps qss
  | .gap :: ps, qs :: qss => qs ++ plug ps qss
  | .gap :: ps, [] => .gap :: plug ps []

/-- If the texts in the gaps are themselves filled templates, then so is the whole. -/
theorem Shows.plug {α : Type} {text : α → String} {qs : α → Template} {us : α → List String}
    {ps : Template} {cs : List α} {s : String} (hps : Shows ps (cs.map text) s)
    (hcs : ∀ c ∈ cs, Shows (qs c) (us c) (text c)) :
    Shows (plug ps (cs.map qs)) (cs.flatMap us) s := by
  obtain ⟨hlength, rfl⟩ := hps
  induction ps generalizing cs with
  | nil =>
    obtain rfl : cs = [] := List.map_eq_nil_iff.1 (List.eq_nil_of_length_eq_zero hlength)
    exact ⟨rfl, rfl⟩
  | cons piece ps ih =>
    cases piece with
    | words text =>
      exact (Shows.words text).append (ih hcs (by simpa [gaps] using hlength))
    | gap =>
      cases cs with
      | nil => simp [gaps] at hlength
      | cons c cs =>
        have hrest := ih (fun d hd => hcs d (List.mem_cons_of_mem c hd))
          (by simpa [gaps] using hlength)
        exact (hcs c List.mem_cons_self).append hrest

/-! ### Groups -/

/-- A part of a group, after its label. -/
def labelled (part : String × Template) : Template :=
  [.words part.1] ++ part.2

/-- The parts of a group in their brackets, with commas between them. -/
def around (b : Bracket) : List (String × Template) → Template
  | [] => [.words b.empty]
  | part :: parts =>
    [.words (b.opening ++ b.padding)] ++ labelled part ++
      parts.flatMap (fun part => [.words ", "] ++ labelled part) ++
      [.words (b.padding ++ b.closing)]

/-- The templates of some parts show the dumps of these parts, under the same labels. -/
inductive ShowsAll : List (String × Template) → List String → List (String × Dump) → Prop
  | nil : ShowsAll [] [] []
  | cons {label : String} {ps : Template} {us : List String} {d : Dump}
      {parts : List (String × Template)} {vs : List String} {ds : List (String × Dump)}
      (hpart : Shows ps us d.compact) (hparts : ShowsAll parts vs ds) :
      ShowsAll ((label, ps) :: parts) (us ++ vs) ((label, d) :: ds)

namespace ShowsAll

theorem compactRest {parts : List (String × Template)} {ts : List String}
    {ds : List (String × Dump)} (hparts : ShowsAll parts ts ds) :
    Shows (parts.flatMap fun part => [.words ", "] ++ labelled part) ts (Dump.compactRest ds) := by
  induction hparts with
  | nil => exact ⟨rfl, rfl⟩
  | @cons label ps us d parts vs ds hpart hparts ih =>
    rw [List.flatMap_cons, Dump.compactRest, Dump.compactPart]
    exact ((Shows.words ", ").append ((Shows.words label).append hpart)).append ih

/-- Brackets around the templates of the parts show the group. -/
theorem group (b : Bracket) {parts : List (String × Template)} {ts : List String}
    {ds : List (String × Dump)} (hparts : ShowsAll parts ts ds) :
    Shows (around b parts) ts (Dump.group b ds).compact := by
  cases hparts with
  | nil => exact .words b.empty
  | @cons label ps us d parts vs ds hpart hparts =>
    have hfirst := (Shows.words (b.opening ++ b.padding)).append ((Shows.words label).append hpart)
    have hall := (hfirst.append hparts.compactRest).append (Shows.words (b.padding ++ b.closing))
    rw [Dump.compact, Dump.compactPart]
    simpa [around, labelled, String.append_assoc] using hall

/-- A single part. -/
theorem single {label : String} {ps : Template} {ts : List String} {d : Dump}
    (hpart : Shows ps ts d.compact) : ShowsAll [(label, ps)] ts [(label, d)] := by
  have hall : ShowsAll [(label, ps)] (ts ++ []) [(label, d)] := .cons hpart .nil
  rwa [List.append_nil] at hall

end ShowsAll

end Template

end SqlTree
