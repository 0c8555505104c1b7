import Mathlib
import SqlTree.Span

/-!
# The text that a span covers

The ends of a span are byte offsets, while a text consists of characters of one to four bytes. So
an end may miss all places where the text can be cut: it may lie past the end of the text or inside
a character. A span covers a text exactly if both ends are such places and it is not inverted, and
an empty span is no exception.

* `Span.splitBytes_eq_some_iff` and `Span.splitBytes_eq_none_iff` say where a text can be cut.
* `Span.splitBytes_append`: what stands before a cut does not matter, so both ends of a span can be
  judged on the whole text.
* `Span.slice_eq_some_iff` and `Span.slice_eq_none_iff` say which spans cover a text, and which.

Main statement: `Span.slice_exact`.
-/

set_option autoImplicit false

namespace SqlTree

namespace Span

open String (utf8Len utf8Len_append utf8Len_cons utf8Len_nil utf8ByteSize_ofList)

/-! ### Where a text can be cut -/

/-- The bytes of a character are passed over together. -/
theorem splitBytes_cons (n : Nat) (c : Char) (cs : List Char) :
    splitBytes (c.utf8Size + n) (c :: cs) = (splitBytes n cs).map fun p => (c :: p.1, p.2) := by
  have hpos : 0 < c.utf8Size := c.utf8Size_pos
  obtain ⟨m, hm⟩ : ∃ m, c.utf8Size + n = m + 1 := ⟨c.utf8Size + n - 1, by omega⟩
  have hfits : c.utf8Size ≤ m + 1 := by omega
  have hrest : m + 1 - c.utf8Size = n := by omega
  rw [hm, splitBytes, if_pos hfits, hrest]

/-- There is no cut inside a character. -/
theorem splitBytes_inside {n : Nat} {c : Char} (cs : List Char) (hpos : 0 < n)
    (hlt : n < c.utf8Size) : splitBytes n (c :: cs) = none := by
  obtain ⟨m, rfl⟩ := Nat.exists_eq_add_of_lt hpos
  rw [Nat.zero_add] at hlt ⊢
  rw [splitBytes, if_neg (by omega)]

/-- What stands before a cut does not matter for it. -/
theorem splitBytes_append (n : Nat) (a cs : List Char) :
    splitBytes (utf8Len a + n) (a ++ cs) = (splitBytes n cs).map fun p => (a ++ p.1, p.2) := by
  induction a with
  | nil => simp
  | cons c a ih =>
    have hsum : utf8Len (c :: a) + n = c.utf8Size + (utf8Len a + n) := by
      rw [utf8Len_cons]
      omega
    rw [List.cons_append, hsum, splitBytes_cons, ih, Option.map_map]
    rfl

/-- A text is cut into two texts of which the first has the given number of bytes. -/
theorem splitBytes_eq_some_iff {n : Nat} {cs a b : List Char} :
    splitBytes n cs = some (a, b) ↔ cs = a ++ b ∧ utf8Len a = n := by
  constructor
  · intro h
    fun_induction splitBytes n cs generalizing a with
    | case1 cs =>
      cases h
      exact ⟨rfl, rfl⟩
    | case2 n => cases h
    | case3 n c cs hfits ih =>
      obtain ⟨⟨a, b⟩, hsplit, hpair⟩ := Option.map_eq_some_iff.1 h
      cases hpair
      obtain ⟨rfl, hbytes⟩ := ih hsplit
      refine ⟨rfl, ?_⟩
      rw [utf8Len_cons, hbytes, Nat.sub_add_cancel hfits]
    | case4 n c cs hfits => cases h
  · rintro ⟨rfl, rfl⟩
    simpa [splitBytes] using splitBytes_append 0 a b

/-- A text cannot be cut past its end and inside a character, and everywhere else it can. -/
theorem splitBytes_eq_none_iff {n : Nat} {cs : List Char} :
    splitBytes n cs = none ↔ utf8Len cs < n ∨
      ∃ a c b, cs = a ++ c :: b ∧ utf8Len a < n ∧ n < utf8Len a + c.utf8Size := by
  constructor
  · intro h
    fun_induction splitBytes n cs with
    | case1 cs => cases h
    | case2 n => exact .inl (Nat.succ_pos n)
    | case3 n c cs hfits ih =>
      rcases ih (Option.map_eq_none_iff.1 h) with hpast | ⟨a, d, b, rfl, hlt, hgt⟩
      · left
        rw [utf8Len_cons]
        omega
      · right
        refine ⟨c :: a, d, b, rfl, ?_, ?_⟩ <;> rw [utf8Len_cons] <;> omega
    | case4 n c cs hfits =>
      right
      refine ⟨[], c, cs, rfl, Nat.succ_pos n, ?_⟩
      rw [utf8Len_nil]
      omega
  · rintro (hpast | ⟨a, c, b, rfl, hlt, hgt⟩)
    -- a cut would leave a first part with more bytes than the whole text
    · rw [Option.eq_none_iff_forall_not_mem]
      rintro ⟨a, b⟩ hsplit
      obtain ⟨rfl, rfl⟩ := splitBytes_eq_some_iff.1 hsplit
      rw [utf8Len_append] at hpast
      omega
    · obtain ⟨k, rfl⟩ : ∃ k, n = utf8Len a + k := ⟨n - utf8Len a, by omega⟩
      have hinside : splitBytes k (c :: b) = none :=
        splitBytes_inside b (by omega) (by omega)
      rw [splitBytes_append, hinside, Option.map_none]

theorem utf8Len_toList (s : String) : utf8Len s.toList = s.utf8ByteSize := by
  rw [← utf8ByteSize_ofList, String.ofList_toList]

/-- Whether an offset falls inside a character of a text: past its start and short of its end. -/
def CutsChar (source : String) (n : Nat) : Prop :=
  ∃ (p : String) (c : Char) (q : String), source = p ++ String.singleton c ++ q ∧
    p.utf8ByteSize < n ∧ n < p.utf8ByteSize + c.utf8Size

theorem splitBytes_toList_eq_none_iff {n : Nat} {source : String} :
    splitBytes n source.toList = none ↔ source.utf8ByteSize < n ∨ CutsChar source n := by
  rw [splitBytes_eq_none_iff, utf8Len_toList]
  refine or_congr_right ⟨?_, ?_⟩
  · rintro ⟨a, c, b, hsource, hlt, hgt⟩
    refine ⟨String.ofList a, c, String.ofList b, ?_, ?_, ?_⟩
    · rw [← String.toList_inj, hsource]
      simp
    · rwa [utf8ByteSize_ofList]
    · rwa [utf8ByteSize_ofList]
  · rintro ⟨p, c, q, rfl, hlt, hgt⟩
    refine ⟨p.toList, c, q.toList, by simp, ?_, ?_⟩ <;> rwa [utf8Len_toList]

/-! ### Slices -/

/-- A slice takes two cuts, the second one in what is left after the first. -/
theorem slice_of_le {s : Span} (hle : s.start ≤ s.stop) (source : String) :
    s.slice source = (splitBytes s.start.toNat source.toList).bind fun p =>
      (splitBytes (s.stop.toNat - s.start.toNat) p.2).map fun r => String.ofList r.1 := by
  rw [slice, if_pos hle]
  simp only [Option.map_eq_bind]
  rfl

/-- An inverted span covers no text. -/
theorem slice_of_lt {s : Span} (hlt : s.stop < s.start) (source : String) :
    s.slice source = none := by
  rw [slice, if_neg (UInt32.not_le.2 hlt)]

/-- **What a span covers** is the text between its ends. -/
theorem slice_eq_some_iff {s : Span} {source t : String} :
    s.slice source = some t ↔ s.start ≤ s.stop ∧ ∃ p q, source = p ++ t ++ q ∧
      p.utf8ByteSize = s.start.toNat ∧ t.utf8ByteSize = s.stop.toNat - s.start.toNat := by
  constructor
  · intro h
    have hle : s.start ≤ s.stop := by
      by_contra hnot
      rw [slice_of_lt (UInt32.not_le.1 hnot)] at h
      cases h
    rw [slice_of_le hle] at h
    obtain ⟨⟨a, rest⟩, hfirst, h⟩ := Option.bind_eq_some_iff.1 h
    obtain ⟨⟨text, b⟩, hsecond, rfl⟩ := Option.map_eq_some_iff.1 h
    obtain ⟨hsource, hstart⟩ := splitBytes_eq_some_iff.1 hfirst
    obtain ⟨rfl, hbytes⟩ := splitBytes_eq_some_iff.1 hsecond
    refine ⟨hle, String.ofList a, String.ofList b, ?_, ?_, ?_⟩
    · rw [← String.toList_inj, hsource]
      simp
    · rw [utf8ByteSize_ofList, hstart]
    · rw [utf8ByteSize_ofList, hbytes]
  · rintro ⟨hle, p, q, rfl, hstart, hbytes⟩
    have hfirst : splitBytes s.start.toNat (p ++ t ++ q).toList =
        some (p.toList, t.toList ++ q.toList) :=
      splitBytes_eq_some_iff.2 ⟨by simp, by rw [utf8Len_toList, hstart]⟩
    have hsecond : splitBytes (s.stop.toNat - s.start.toNat) (t.toList ++ q.toList) =
        some (t.toList, q.toList) :=
      splitBytes_eq_some_iff.2 ⟨rfl, by rw [utf8Len_toList, hbytes]⟩
    rw [slice_of_le hle, hfirst, Option.bind_some, hsecond, Option.map_some, String.ofList_toList]

/-- The second cut of a slice is a cut of the whole text as well, so both ends of the span can be
judged on their own. -/
theorem slice_eq_none_iff_splitBytes {s : Span} (hle : s.start ≤ s.stop) {source : String} :
    s.slice source = none ↔ splitBytes s.start.toNat source.toList = none ∨
      splitBytes s.stop.toNat source.toList = none := by
  rw [slice_of_le hle]
  cases hfirst : splitBytes s.start.toNat source.toList with
  | none => simp
  | some p =>
    obtain ⟨a, rest⟩ := p
    obtain ⟨hsource, hstart⟩ := splitBytes_eq_some_iff.1 hfirst
    have hnat : s.start.toNat ≤ s.stop.toNat := UInt32.le_iff_toNat_le.1 hle
    have hstop : utf8Len a + (s.stop.toNat - s.start.toNat) = s.stop.toNat := by omega
    have hsecond : splitBytes s.stop.toNat source.toList =
        (splitBytes (s.stop.toNat - s.start.toNat) rest).map fun r => (a ++ r.1, r.2) := by
      rw [hsource, ← splitBytes_append, hstop]
    rw [hsecond, Option.bind_some]
    simp

/-- **Which spans cover no text**: the inverted ones, those that reach past the end of the text and
those with an end inside a character. -/
theorem slice_eq_none_iff {s : Span} {source : String} :
    s.slice source = none ↔ s.stop < s.start ∨ source.utf8ByteSize < s.stop.toNat ∨
      CutsChar source s.start.toNat ∨ CutsChar source s.stop.toNat := by
  by_cases hle : s.start ≤ s.stop
  · have hnat : s.start.toNat ≤ s.stop.toNat := UInt32.le_iff_toNat_le.1 hle
    have hlt : ¬ s.stop < s.start := UInt32.not_lt.2 hle
    rw [slice_eq_none_iff_splitBytes hle, splitBytes_toList_eq_none_iff,
      splitBytes_toList_eq_none_iff]
    constructor
    · rintro ((hpast | hcut) | (hpast | hcut))
      · exact .inr (.inl (by omega))
      · exact .inr (.inr (.inl hcut))
      · exact .inr (.inl hpast)
      · exact .inr (.inr (.inr hcut))
    · rintro (hinverted | hpast | hcut | hcut)
      · exact absurd hinverted hlt
      · exact .inr (.inl hpast)
      · exact .inl (.inr hcut)
      · exact .inr (.inr hcut)
  · have hlt : s.stop < s.start := UInt32.not_le.1 hle
    exact iff_of_true (slice_of_lt hlt source) (.inl hlt)

/-- The length of a span that is not inverted. -/
theorem toNat_length {s : Span} (hle : s.start ≤ s.stop) :
    s.length.toNat = s.stop.toNat - s.start.toNat := by
  rw [length, if_neg (UInt32.not_lt.2 hle), UInt32.toNat_sub_of_le _ _ hle]

theorem isEmpty_iff {s : Span} : s.isEmpty = true ↔ s.length.toNat = 0 := by
  rw [isEmpty, beq_iff_eq, ← UInt32.toNat_inj]
  rfl

/-- **Slices are exact.** A span covers a text `t` of the source exactly if it is not inverted and
`t` stands in the source with as many bytes before it and in it as the span says. Otherwise it
covers no text, and that is so exactly if it is inverted, ends past the source or has an end inside
a character. What is covered is as long as the span, and empty exactly if the span is. -/
theorem slice_exact (s : Span) (source : String) :
    (∀ t, s.slice source = some t ↔ s.start ≤ s.stop ∧ ∃ p q, source = p ++ t ++ q ∧
      p.utf8ByteSize = s.start.toNat ∧ t.utf8ByteSize = s.stop.toNat - s.start.toNat) ∧
    (s.slice source = none ↔ s.stop < s.start ∨ source.utf8ByteSize < s.stop.toNat ∨
      CutsChar source s.start.toNat ∨ CutsChar source s.stop.toNat) ∧
    ∀ t, s.slice source = some t →
      t.utf8ByteSize = s.length.toNat ∧ (t = "" ↔ s.isEmpty = true) := by
  refine ⟨fun t => slice_eq_some_iff, slice_eq_none_iff, fun t h => ?_⟩
  obtain ⟨hle, p, q, -, -, hbytes⟩ := slice_eq_some_iff.1 h
  have hlength : t.utf8ByteSize = s.length.toNat := by rw [hbytes, toNat_length hle]
  refine ⟨hlength, ?_⟩
  rw [isEmpty_iff, ← hlength, String.utf8ByteSize_eq_zero_iff]

/-- Characters of one to four bytes: a slice of two of them, the empty slice at the end of the text,
and an empty span inside a character, which covers no text, not even the empty one. -/
theorem slice_multibyte :
    let source := "aé€😀"
    let mid : Span := ⟨1, 6⟩
    let last : Span := ⟨10, 10⟩
    let cut : Span := ⟨2, 2⟩
    mid.slice source = some "é€" ∧ "é€".utf8ByteSize = mid.length.toNat ∧
    last.slice source = some "" ∧ last.isEmpty = true ∧
    cut.slice source = none ∧ cut.isEmpty = true := by
  intro source mid last cut
  obtain ⟨hmid, -, hmidLength⟩ := slice_exact mid source
  obtain ⟨hlast, -, hlastLength⟩ := slice_exact last source
  obtain ⟨-, hcut, -⟩ := slice_exact cut source
  have hslice : mid.slice source = some "é€" :=
    (hmid "é€").2 ⟨by decide, "a", "😀", by decide, by decide, by decide⟩
  have hend : last.slice source = some "" :=
    (hlast "").2 ⟨by decide, source, "", by decide, by decide, by decide⟩
  have hnone : cut.slice source = none :=
    hcut.2 (.inr (.inr (.inl ⟨"a", 'é', "€😀", by decide, by decide, by decide⟩)))
  exact ⟨hslice, (hmidLength _ hslice).1, hend, (hlastLength _ hend).2.1 rfl, hnone, by decide⟩

end Span

end SqlTree
