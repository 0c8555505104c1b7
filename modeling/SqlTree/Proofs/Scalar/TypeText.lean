import Mathlib
import SqlTree.Scalar.DataType

/-!
# What the text of a type tells

A type is written as a word, with sizes in parentheses and with a pair of brackets for each level
of arrays. These three can be told apart in the text, and they give the type back, but for one
thing: the scale of a decimal type is not written if its precision is not. Custom types are set
aside, since they are written as they were given and may look like any other type.

* `DataType.Spelling` is a word with sizes and brackets, `DataType.spelling` that of a type, and
  `DataType.toList_display` says that it is what is written.
* `DataType.Spelling.text_inj`: the text gives the spelling back.
* `DataType.Spelling.read` reads a spelling, and `DataType.read_spelling` says what comes back.

Main statement: `DataType.display_eq_iff_dropLooseScales_eq`.
-/

set_option autoImplicit false

namespace SqlTree

/-- A run of items with a property ends where the first item without it stands, so the run and the
rest can be told apart. -/
theorem append_inj_of_run {α : Type} {p : α → Bool} {x y u v : List α} (hx : ∀ c ∈ x, p c = true)
    (hy : ∀ c ∈ y, p c = true) (hu : ∀ c ∈ u.head?, p c = false) (hv : ∀ c ∈ v.head?, p c = false)
    (heq : x ++ u = y ++ v) : x = y ∧ u = v := by
  have hrun : ∀ {z w : List α}, (∀ c ∈ z, p c = true) → (∀ c ∈ w.head?, p c = false) →
      (z ++ w).takeWhile p = z := by
    intro z w hz hw
    have hstop : w.takeWhile p = [] := by
      cases w with
      | nil => rfl
      | cons c w => exact List.takeWhile_cons_of_neg (by simp [hw c rfl])
    rw [List.takeWhile_append_of_pos hz, hstop, List.append_nil]
  have hxy : x = y := by rw [← hrun hx hu, heq, hrun hy hv]
  subst hxy
  exact ⟨rfl, List.append_cancel_left heq⟩

namespace DataType

/-- Whether no level of a type is a custom one. -/
def customFree : DataType → Bool
  | custom _ => false
  | array element => element.customFree
  | _ => true

/-- The type without the scales of decimal types that have no precision. -/
def dropLooseScales : DataType → DataType
  | decimal none _ => decimal none none
  | array element => array element.dropLooseScales
  | d => d

/-! ### Spellings -/

/-- What is written of a type. -/
structure Spelling where
  word : String
  sizes : List UInt64
  /-- The number of pairs of brackets. -/
  brackets : Nat

/-- How a type is spelled. -/
def spelling : DataType → Spelling
  | char n => ⟨"CHAR", n.toList, 0⟩
  | varchar n => ⟨"VARCHAR", n.toList, 0⟩
  | uuid => ⟨"UUID", [], 0⟩
  | clob n => ⟨"CLOB", [n], 0⟩
  | binary n => ⟨"BINARY", [n], 0⟩
  | varbinary n => ⟨"VARBINARY", [n], 0⟩
  | blob n => ⟨"BLOB", [n], 0⟩
  | decimal (some p) s => ⟨"DECIMAL", p :: s.toList, 0⟩
  | decimal none _ => ⟨"DECIMAL", [], 0⟩
  | float n => ⟨"FLOAT", n.toList, 0⟩
  | smallInt => ⟨"SMALLINT", [], 0⟩
  | int => ⟨"INT", [], 0⟩
  | bigInt => ⟨"BIGINT", [], 0⟩
  | real => ⟨"REAL", [], 0⟩
  | double => ⟨"DOUBLE PRECISION", [], 0⟩
  | boolean => ⟨"BOOLEAN", [], 0⟩
  | date => ⟨"DATE", [], 0⟩
  | time => ⟨"TIME", [], 0⟩
  | timestamp => ⟨"TIMESTAMP", [], 0⟩
  | interval => ⟨"INTERVAL", [], 0⟩
  | regclass => ⟨"REGCLASS", [], 0⟩
  | text => ⟨"TEXT", [], 0⟩
  | bytea => ⟨"BYTEA", [], 0⟩
  | array element => { element.spelling with brackets := element.spelling.brackets + 1 }
  | custom name => ⟨name, [], 0⟩

namespace Spelling

/-- The digits of a number. -/
def digits (n : UInt64) : List Char :=
  (toString n).toList

/-- The sizes after the first, each with a comma before it. -/
def moreSizes (ns : List UInt64) : List Char :=
  ns.flatMap fun n => ',' :: digits n

/-- The sizes in parentheses, if there are any. -/
def sizesText : List UInt64 → List Char
  | [] => []
  | n :: ns => '(' :: (digits n ++ (moreSizes ns ++ [')']))

/-- Some pairs of brackets. -/
def bracketsText (n : Nat) : List Char :=
  (List.replicate n ['[', ']']).flatten

/-- The spelling as a text. -/
def text (s : Spelling) : List Char :=
  s.word.toList ++ (sizesText s.sizes ++ bracketsText s.brackets)

theorem bracketsText_succ (n : Nat) : bracketsText (n + 1) = bracketsText n ++ ['[', ']'] := by
  rw [bracketsText, List.replicate_succ', List.flatten_append]
  rfl

end Spelling

open Spelling

theorem toList_sized (word : String) (n : UInt64) :
    (sized word n).toList = (Spelling.mk word [n] 0).text := by
  simp [sized, Spelling.text, sizesText, moreSizes, bracketsText, digits]

theorem toList_sized? (word : String) (n : Option UInt64) :
    (sized? word n).toList = (Spelling.mk word n.toList 0).text := by
  cases n with
  | none => simp [sized?, Spelling.text, sizesText, bracketsText]
  | some n => exact toList_sized word n

/-- A word alone. -/
theorem toList_word (word : String) : word.toList = (Spelling.mk word [] 0).text := by
  simp [Spelling.text, sizesText, bracketsText]

/-- **A type is written as it is spelled.** -/
theorem toList_display (d : DataType) : d.display.toList = d.spelling.text := by
  induction d with
  | char n | varchar n | float n => exact toList_sized? _ n
  | clob n | binary n | varbinary n | blob n => exact toList_sized _ n
  | decimal p s =>
    cases p with
    | none => exact toList_word _
    | some p =>
      cases s with
      | none => exact toList_sized _ p
      | some s =>
        simp [display, spelling, Spelling.text, sizesText, moreSizes, bracketsText, digits]
  | array element ih =>
    rw [display, String.toList_append, ih, spelling, Spelling.text, Spelling.text,
      bracketsText_succ]
    simp
  | _ => exact toList_word _

/-! ### The text gives the spelling back -/

namespace Spelling

theorem digits_eq_toDigits (n : UInt64) : digits n = Nat.toDigits 10 n.toNat := by
  have hstring : toString n = String.ofList (Nat.toDigits 10 n.toNat) :=
    Nat.toString_eq_ofList_toDigits
  rw [digits, hstring, String.toList_ofList]

theorem isDigit_of_mem_digits {n : UInt64} {c : Char} (hc : c ∈ digits n) : c.isDigit = true := by
  rw [digits_eq_toDigits] at hc
  exact Nat.isDigit_of_mem_toDigits (by decide) (by decide) hc

theorem digits_inj {m n : UInt64} (h : digits m = digits n) : m = n := by
  have hrepr : m.toNat.repr = n.toNat.repr := String.toList_inj.1 h
  exact UInt64.toNat_inj.1 (Nat.repr_inj.1 hrepr)

/-- After the digits of a size comes a comma or the closing parenthesis. -/
theorem isDigit_head?_moreSizes (ns : List UInt64) (u : List Char) :
    ∀ c ∈ (moreSizes ns ++ ')' :: u).head?, c.isDigit = false := by
  cases ns with
  | nil =>
    rintro c ⟨⟩
    rfl
  | cons n ns =>
    rintro c ⟨⟩
    rfl

theorem moreSizes_inj {ns ms : List UInt64} {u v : List Char}
    (h : moreSizes ns ++ ')' :: u = moreSizes ms ++ ')' :: v) : ns = ms ∧ u = v := by
  induction ns generalizing ms with
  | nil =>
    cases ms with
    | nil => exact ⟨rfl, (List.cons.inj h).2⟩
    | cons m ms => cases (List.cons.inj h).1
  | cons n ns ih =>
    cases ms with
    | nil => cases (List.cons.inj h).1
    | cons m ms =>
      have hafter : digits n ++ (moreSizes ns ++ ')' :: u) =
          digits m ++ (moreSizes ms ++ ')' :: v) := by
        simpa [moreSizes] using h
      obtain ⟨hdigits, hrest⟩ := append_inj_of_run (fun _ => isDigit_of_mem_digits)
        (fun _ => isDigit_of_mem_digits) (isDigit_head?_moreSizes ns u)
        (isDigit_head?_moreSizes ms v) hafter
      obtain ⟨rfl, rfl⟩ := ih hrest
      exact ⟨by rw [digits_inj hdigits], rfl⟩

theorem sizesText_inj {ns ms : List UInt64} (h : sizesText ns = sizesText ms) : ns = ms := by
  cases ns with
  | nil =>
    cases ms with
    | nil => rfl
    | cons m ms => cases h
  | cons n ns =>
    cases ms with
    | nil => cases h
    | cons m ms =>
      obtain ⟨hdigits, hrest⟩ := append_inj_of_run (fun _ => isDigit_of_mem_digits)
        (fun _ => isDigit_of_mem_digits) (isDigit_head?_moreSizes ns [])
        (isDigit_head?_moreSizes ms []) (List.cons.inj h).2
      rw [digits_inj hdigits, (moreSizes_inj hrest).1]

theorem bracketsText_inj {m n : Nat} (h : bracketsText m = bracketsText n) : m = n := by
  have hlength := congrArg List.length h
  simpa [bracketsText] using hlength

/-- No bracket occurs among the sizes. -/
theorem ne_bracket_of_mem_sizesText {ns : List UInt64} {c : Char} (hc : c ∈ sizesText ns) :
    (c != '[') = true := by
  have hdigit : ∀ {n : UInt64}, c ∈ digits n → (c != '[') = true := by
    intro n hc
    rw [bne_iff_ne]
    rintro rfl
    cases isDigit_of_mem_digits hc
  cases ns with
  | nil => cases hc
  | cons n ns =>
    simp only [sizesText, moreSizes, List.mem_cons, List.mem_append, List.mem_flatMap,
      List.not_mem_nil, or_false] at hc
    rcases hc with rfl | hc | ⟨m, -, rfl | hc⟩ | rfl
    · rfl
    · exact hdigit hc
    · rfl
    · exact hdigit hc
    · rfl

theorem head?_bracketsText (n : Nat) : ∀ c ∈ (bracketsText n).head?, (c != '[') = false := by
  cases n with
  | zero => rintro c ⟨⟩
  | succ n =>
    rintro c ⟨⟩
    rfl

/-- Whether a character can stand in a word. -/
def isPlain (c : Char) : Bool :=
  c != '(' && c != '['

/-- The word of a spelling ends at the first parenthesis or bracket. -/
theorem head?_sizesText_append (ns : List UInt64) (n : Nat) :
    ∀ c ∈ (sizesText ns ++ bracketsText n).head?, isPlain c = false := by
  cases ns with
  | nil =>
    intro c hc
    rw [isPlain, head?_bracketsText n c hc, Bool.and_false]
  | cons m ms =>
    rintro c ⟨⟩
    rfl

/-- **The text gives the spelling back**, if the words have neither parentheses nor brackets. -/
theorem text_inj {s t : Spelling} (hs : ∀ c ∈ s.word.toList, isPlain c = true)
    (ht : ∀ c ∈ t.word.toList, isPlain c = true) (h : s.text = t.text) : s = t := by
  obtain ⟨hword, hrest⟩ := append_inj_of_run hs ht (head?_sizesText_append _ _)
    (head?_sizesText_append _ _) h
  obtain ⟨hsizes, hbrackets⟩ := append_inj_of_run (fun _ => ne_bracket_of_mem_sizesText)
    (fun _ => ne_bracket_of_mem_sizesText) (head?_bracketsText _) (head?_bracketsText _) hrest
  obtain ⟨word, sizes, brackets⟩ := s
  obtain ⟨word', sizes', brackets'⟩ := t
  obtain rfl : word = word' := String.toList_inj.1 hword
  obtain rfl : sizes = sizes' := sizesText_inj hsizes
  obtain rfl : brackets = brackets' := bracketsText_inj hbrackets
  rfl

end Spelling

/-- The words of all types but the custom ones are plain. -/
theorem isPlain_of_mem_word {d : DataType} (hd : d.customFree = true) :
    ∀ c ∈ d.spelling.word.toList, isPlain c = true := by
  induction d with
  | custom name => cases hd
  | array element ih => exact ih hd
  | decimal p s => cases p <;> simp [spelling, isPlain]
  | _ => simp [spelling, isPlain]

/-! ### The spelling gives the type back -/

namespace Spelling

/-- The type with a given word and given sizes. -/
def ofWord : String → List UInt64 → DataType
  | "CHAR", ns => .char ns.head?
  | "VARCHAR", ns => .varchar ns.head?
  | "UUID", _ => .uuid
  | "CLOB", n :: _ => .clob n
  | "BINARY", n :: _ => .binary n
  | "VARBINARY", n :: _ => .varbinary n
  | "BLOB", n :: _ => .blob n
  | "DECIMAL", ns => .decimal ns.head? ns.tail.head?
  | "FLOAT", ns => .float ns.head?
  | "SMALLINT", _ => .smallInt
  | "INT", _ => .int
  | "BIGINT", _ => .bigInt
  | "REAL", _ => .real
  | "DOUBLE PRECISION", _ => .double
  | "BOOLEAN", _ => .boolean
  | "DATE", _ => .date
  | "TIME", _ => .time
  | "TIMESTAMP", _ => .timestamp
  | "INTERVAL", _ => .interval
  | "REGCLASS", _ => .regclass
  | "TEXT", _ => .text
  | "BYTEA", _ => .bytea
  | word, _ => .custom word

/-- The type with a given spelling. -/
def read (s : Spelling) : DataType :=
  array^[s.brackets] (ofWord s.word s.sizes)

end Spelling

/-- **What is read is what was written**, but for the scales that are not written. -/
theorem read_spelling {d : DataType} (hd : d.customFree = true) :
    d.spelling.read = d.dropLooseScales := by
  induction d with
  | custom name => cases hd
  | array element ih =>
    have hread := ih hd
    rw [dropLooseScales, ← hread, Spelling.read, Spelling.read, spelling,
      Function.iterate_succ_apply']
  | char n | varchar n | float n => cases n <;> rfl
  | decimal p s =>
    cases p with
    | none => rfl
    | some p => cases s <;> rfl
  | _ => rfl

/-- A scale without a precision does not show in the spelling. -/
theorem spelling_dropLooseScales (d : DataType) : d.dropLooseScales.spelling = d.spelling := by
  induction d with
  | array element ih => rw [dropLooseScales, spelling, spelling, ih]
  | decimal p s => cases p <;> rfl
  | _ => rfl

theorem spelling_eq_iff {a b : DataType} (ha : a.customFree = true) (hb : b.customFree = true) :
    a.spelling = b.spelling ↔ a.dropLooseScales = b.dropLooseScales := by
  constructor
  · intro h
    rw [← read_spelling ha, ← read_spelling hb, h]
  · intro h
    rw [← a.spelling_dropLooseScales, ← b.spelling_dropLooseScales, h]

/-- **What the text of a type forgets.** Two types without custom levels are written alike exactly
if they are the same but for scales of decimal types without a precision. So no two types are
written alike that have neither custom levels nor such scales. -/
theorem display_eq_iff_dropLooseScales_eq :
    (∀ a b : DataType, a.customFree = true → b.customFree = true →
      (a.display = b.display ↔ a.dropLooseScales = b.dropLooseScales)) ∧
    Set.InjOn display {d | d.customFree = true ∧ d.dropLooseScales = d} := by
  have hiff : ∀ a b : DataType, a.customFree = true → b.customFree = true →
      (a.display = b.display ↔ a.dropLooseScales = b.dropLooseScales) := by
    intro a b ha hb
    rw [← spelling_eq_iff ha hb, ← String.toList_inj, toList_display, toList_display]
    exact ⟨Spelling.text_inj (isPlain_of_mem_word ha) (isPlain_of_mem_word hb),
      congrArg Spelling.text⟩
  refine ⟨hiff, ?_⟩
  rintro a ⟨ha, hlooseA⟩ b ⟨hb, hlooseB⟩ h
  rw [← hlooseA, ← hlooseB]
  exact (hiff a b ha hb).1 h

/-- Arrays of decimal types: a scale without a precision is forgotten, the largest precision is
not. -/
theorem display_eq_iff_decimals :
    let a : DataType := .array (.decimal none (some 2))
    let b : DataType := .array (.decimal none none)
    let c : DataType := .array (.decimal (some 18446744073709551615) none)
    a.customFree = true ∧ b.customFree = true ∧ c.customFree = true ∧
    a ≠ b ∧ a.display = b.display ∧ b.display ≠ c.display := by
  intro a b c
  obtain ⟨hiff, -⟩ := display_eq_iff_dropLooseScales_eq
  refine ⟨rfl, rfl, rfl, by decide, (hiff a b rfl rfl).2 rfl, fun h => ?_⟩
  exact absurd ((hiff b c rfl rfl).1 h) (by decide)

end DataType

end SqlTree
