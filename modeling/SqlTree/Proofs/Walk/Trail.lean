import SqlTree.Proofs.Walk.Run

/-!
# Where the calls of a run are made

The trail of a run is laid out along the paths of the unfolding. What is proved here holds of
every run, whether it fails or not:

* `Tree.Runs.prefix_of_mem` and `Forest.Runs.prefix_of_mem`: the calls of a run stay at and
  below the occurrence where it starts.
* `Tree.Runs.hasPart_of_mem`: what a run does at and below an occurrence that it enters is a run
  of that occurrence. Most of what follows in other modules is read off such parts.
* `Walker.alone_of_prunes`: at and below a pruned occurrence there is the one call only.
* `Tree.Runs.openAfter_trail`: the occurrences that are open form a stack, and a leaving is about
  the innermost one.
* `Walker.places_trail`: the trail of a walk places its calls in the unfolding of the root, and no
  occurrence is entered twice.
-/

set_option autoImplicit false

namespace SqlTree

variable {ι σ : Type} {w : Walker} {v : Visitor ι σ}

/-! ### Paths below a path -/

theorem index_unique {p q : Path} {k m : Nat} (hk : p ++ [k] <+: q) (hm : p ++ [m] <+: q) :
    k = m := by
  obtain ⟨a, rfl⟩ := hk
  obtain ⟨b, hb⟩ := hm
  simp only [List.append_assoc, List.append_cancel_left_eq, List.singleton_append,
    List.cons.injEq] at hb
  exact hb.1.symm

theorem not_prefix_of_below {p q : Path} {k : Nat} (hk : p ++ [k] <+: q) : ¬ q <+: p := by
  intro hqp
  have := (hk.trans hqp).length_le
  simp only [List.length_append, List.length_cons, List.length_nil] at this
  omega

/-! ### The calls of a run stay below its start -/

/-- The calls at and below a node that is left: its entry, those below, and its leaving. -/
theorem mem_enclosed {α : Type} {x first last : α} {inner : List α} :
    x ∈ first :: (inner ++ [last]) ↔ x = first ∨ x ∈ inner ∨ x = last := by
  rw [List.mem_cons, List.mem_append, List.mem_singleton]

mutual

theorem Tree.Runs.prefix_of_mem {p : Path} {i : ι} {t : Tree} {s : σ} {r : Run ι σ}
    (hr : t.Runs w v p i s r) : ∀ x ∈ r.trail, p <+: x.1 := by
  intro x hx
  cases hr with
  | pruned henter =>
    obtain rfl := List.mem_singleton.1 hx
    exact List.prefix_refl p
  | refused henter =>
    obtain rfl := List.mem_singleton.1 hx
    exact List.prefix_refl p
  | left henter hbelow =>
    rcases mem_enclosed.1 hx with rfl | hx | rfl
    · exact List.prefix_refl p
    · obtain ⟨m, -, hm⟩ := hbelow.prefix_of_mem x hx
      exact (List.prefix_append p [m]).trans hm
    · exact List.prefix_refl p
  | broken henter hbelow =>
    rcases List.mem_cons.1 hx with rfl | hx
    · exact List.prefix_refl p
    · obtain ⟨m, -, hm⟩ := hbelow.prefix_of_mem x hx
      exact (List.prefix_append p [m]).trans hm

theorem Forest.Runs.prefix_of_mem {p : Path} {k : Nat} {j : ι} {f : Forest} {s : σ}
    {r : Run ι σ} (hr : f.Runs w v p k j s r) : ∀ x ∈ r.trail, ∃ m, k ≤ m ∧ p ++ [m] <+: x.1 := by
  intro x hx
  cases hr with
  | nil => simp at hx
  | cons hfirst hrest =>
    rcases List.mem_append.1 hx with hx | hx
    · exact ⟨k, Nat.le_refl k, hfirst.prefix_of_mem x hx⟩
    · obtain ⟨m, hkm, hm⟩ := hrest.prefix_of_mem x hx
      exact ⟨m, Nat.le_of_succ_le hkm, hm⟩
  | stop hfirst => exact ⟨k, Nat.le_refl k, hfirst.prefix_of_mem x hx⟩

end

/-- What is below an occurrence is not above it. -/
theorem Forest.Runs.not_prefix_start {p : Path} {k : Nat} {j : ι} {f : Forest} {s : σ}
    {r : Run ι σ} (hr : f.Runs w v p k j s r) : ∀ x ∈ r.trail, ¬ x.1 <+: p := by
  intro x hx
  obtain ⟨m, -, hm⟩ := hr.prefix_of_mem x hx
  exact not_prefix_of_below hm

/-- Nothing of what follows a child is at or below the child, or above it. -/
theorem Forest.Runs.not_prefix_of_mem {p : Path} {k : Nat} {j : ι} {f : Forest} {s : σ}
    {r : Run ι σ} (hr : f.Runs w v p (k + 1) j s r) {q : Path} (hq : p ++ [k] <+: q) :
    ∀ y ∈ r.trail, ¬ q <+: y.1 ∧ ¬ y.1 <+: q := by
  intro y hy
  obtain ⟨m, hkm, hm⟩ := hr.prefix_of_mem y hy
  refine ⟨fun hqy => ?_, fun hyq => ?_⟩
  · have := index_unique (hq.trans hqy) hm
    omega
  · have := index_unique hq (hm.trans hyq)
    omega

/-! ### The part of a run below an occurrence -/

/-- `part` is what a run does at and below the occurrence at a path: the calls of the part are
made in one stretch, no other call is made there, and the part succeeds unless it fails together
with the run and is the end of it. -/
def Run.HasPart (r : Run ι σ) (p : Path) (part : Run ι σ) : Prop :=
  ∃ before later, r.trail = before ++ part.trail ++ later ∧
    (∀ y ∈ before ++ later, ¬ p <+: y.1) ∧
    (part.result = .ok () ∨ part.result = r.result ∧ part.state = r.state ∧ later = [])

namespace Run.HasPart

theorem refl (r : Run ι σ) (p : Path) : r.HasPart p r :=
  ⟨[], [], by simp, by simp, .inr ⟨rfl, rfl, rfl⟩⟩

variable {r part : Run ι σ} {p : Path}

/-- The parts of a run that succeeds succeed. -/
theorem result_eq_ok (hpart : r.HasPart p part) (hok : r.result = .ok ()) :
    part.result = .ok () := by
  obtain ⟨-, -, -, -, hend | ⟨hend, -, -⟩⟩ := hpart
  · exact hend
  · exact hend.trans hok

/-- What precedes a run does not matter to its parts. -/
theorem after (hpart : r.HasPart p part) (earlier : List (Path × Call ι σ))
    (hearlier : ∀ y ∈ earlier, ¬ p <+: y.1) :
    Run.HasPart ⟨earlier ++ r.trail, r.result, r.state⟩ p part := by
  obtain ⟨before, later, htrail, hothers, hend⟩ := hpart
  refine ⟨earlier ++ before, later, by simp [htrail], fun y hy => ?_, hend⟩
  rw [List.append_assoc] at hy
  rcases List.mem_append.1 hy with hy | hy
  · exact hearlier y hy
  · exact hothers y hy

/-- What follows a run that succeeds does not matter to its parts. -/
theorem before (hpart : r.HasPart p part) (hok : r.result = .ok ())
    (next : List (Path × Call ι σ)) (hnext : ∀ y ∈ next, ¬ p <+: y.1)
    (result : Except WalkError Unit) (state : σ) :
    Run.HasPart ⟨r.trail ++ next, result, state⟩ p part := by
  have hpartOk := hpart.result_eq_ok hok
  obtain ⟨before, later, htrail, hothers, -⟩ := hpart
  refine ⟨before, later ++ next, by simp [htrail], fun y hy => ?_, .inl hpartOk⟩
  rw [← List.append_assoc] at hy
  rcases List.mem_append.1 hy with hy | hy
  · exact hothers y hy
  · exact hnext y hy

end Run.HasPart

mutual

/-- **Every entry starts a run of its own.** What a run does at and below an occurrence that it
enters is a run of that occurrence, from the visitor and the state at the entry. -/
theorem Tree.Runs.hasPart_of_mem {p : Path} {i : ι} {t : Tree} {s : σ} {r : Run ι σ}
    (hr : t.Runs w v p i s r) : ∀ x ∈ r.trail, x.2.isLeave = false →
      ∃ q u part, x.1 = p ++ q ∧ t.at? q = some u ∧
        x.2 = v.call x.2.receiver (.enter u.handle) x.2.before ∧
        u.Runs w v x.1 x.2.receiver x.2.before part ∧ r.HasPart x.1 part := by
  intro x hx hentry
  cases hr with
  | pruned henter =>
    obtain rfl := List.mem_singleton.1 hx
    exact ⟨[], t, _, by simp, t.at?_nil, rfl, .pruned henter, .refl _ p⟩
  | refused henter =>
    obtain rfl := List.mem_singleton.1 hx
    exact ⟨[], _, _, by simp, Tree.at?_nil _, rfl, .refused henter, .refl _ p⟩
  | @left p i j h below s s' trail henter hbelow =>
    rcases mem_enclosed.1 hx with rfl | hx | rfl
    · exact ⟨[], _, _, by simp, Tree.at?_nil _, rfl, .left henter hbelow, .refl _ p⟩
    · obtain ⟨m, q, u, part, hpath, hu, hcall, hruns, hpart⟩ :=
        hbelow.hasPart_of_mem x hx hentry
      refine ⟨m :: q, u, part, by simpa using hpath, by simpa using hu, hcall, hruns, ?_⟩
      -- the entry and the leaving of the node itself enclose the part, and are above it
      have hp := hbelow.not_prefix_start x hx
      have hleft := hpart.before rfl [(p, v.call i .leave s')] (by simpa using hp) (.ok ())
        (v.call i .leave s').after
      exact hleft.after [(p, v.call i (.enter h) s)] (by simpa using hp)
    · cases hentry
  | broken henter hbelow =>
    rcases List.mem_cons.1 hx with rfl | hx
    · exact ⟨[], _, _, by simp, Tree.at?_nil _, rfl, .broken henter hbelow, .refl _ p⟩
    · obtain ⟨m, q, u, part, hpath, hu, hcall, hruns, hpart⟩ :=
        hbelow.hasPart_of_mem x hx hentry
      refine ⟨m :: q, u, part, by simpa using hpath, by simpa using hu, hcall, hruns, ?_⟩
      exact hpart.after [(p, _)] (by simpa using hbelow.not_prefix_start x hx)

theorem Forest.Runs.hasPart_of_mem {p : Path} {k : Nat} {j : ι} {f : Forest} {s : σ}
    {r : Run ι σ} (hr : f.Runs w v p k j s r) : ∀ x ∈ r.trail, x.2.isLeave = false →
      ∃ m q u part, x.1 = p ++ (k + m) :: q ∧ (f.get? m).bind (·.at? q) = some u ∧
        x.2 = v.call x.2.receiver (.enter u.handle) x.2.before ∧
        u.Runs w v x.1 x.2.receiver x.2.before part ∧ r.HasPart x.1 part := by
  intro x hx hentry
  cases hr with
  | nil => simp at hx
  | cons hfirst hrest =>
    rcases List.mem_append.1 hx with hx | hx
    · -- in the first child, which succeeds: its siblings follow and are not below the entry
      obtain ⟨q, u, part, hpath, hu, hcall, hruns, hpart⟩ := hfirst.hasPart_of_mem x hx hentry
      refine ⟨0, q, u, part, by simpa using hpath, hu, hcall, hruns, hpart.before rfl _ ?_ _ _⟩
      intro y hy
      exact (hrest.not_prefix_of_mem (hfirst.prefix_of_mem x hx) y hy).1
    · obtain ⟨m, q, u, part, hpath, hu, hcall, hruns, hpart⟩ := hrest.hasPart_of_mem x hx hentry
      refine ⟨m + 1, q, u, part, ?_, hu, hcall, hruns, hpart.after _ fun y hy hyx => ?_⟩
      · rw [hpath, Nat.add_assoc, Nat.add_comm 1 m]
      · exact (hrest.not_prefix_of_mem (hfirst.prefix_of_mem y hy) x hx).2 hyx
  | stop hfirst =>
    obtain ⟨q, u, part, hpath, hu, hcall, hruns, hpart⟩ := hfirst.hasPart_of_mem x hx hentry
    exact ⟨0, q, u, part, by simpa using hpath, hu, hcall, hruns, hpart⟩

end

mutual

/-- Every call of a run is made of the visitors, in the state that it notes. -/
theorem Tree.Runs.eq_call_of_mem {p : Path} {i : ι} {t : Tree} {s : σ} {r : Run ι σ}
    (hr : t.Runs w v p i s r) : ∀ x ∈ r.trail, x.2 = v.call x.2.receiver x.2.event x.2.before := by
  intro x hx
  cases hr with
  | pruned henter =>
    obtain rfl := List.mem_singleton.1 hx
    rfl
  | refused henter =>
    obtain rfl := List.mem_singleton.1 hx
    rfl
  | left henter hbelow =>
    rcases mem_enclosed.1 hx with rfl | hx | rfl
    · rfl
    · exact hbelow.eq_call_of_mem x hx
    · rfl
  | broken henter hbelow =>
    rcases List.mem_cons.1 hx with rfl | hx
    · rfl
    · exact hbelow.eq_call_of_mem x hx

theorem Forest.Runs.eq_call_of_mem {p : Path} {k : Nat} {j : ι} {f : Forest} {s : σ}
    {r : Run ι σ} (hr : f.Runs w v p k j s r) :
    ∀ x ∈ r.trail, x.2 = v.call x.2.receiver x.2.event x.2.before := by
  intro x hx
  cases hr with
  | nil => simp at hx
  | cons hfirst hrest =>
    rcases List.mem_append.1 hx with hx | hx
    · exact hfirst.eq_call_of_mem x hx
    · exact hrest.eq_call_of_mem x hx
  | stop hfirst => exact hfirst.eq_call_of_mem x hx

end

/-! ### Leaving what was entered -/

theorem Visitor.opens_call {i j : ι} {h : Handle} {s : σ}
    (henter : (v.call i (.enter h) s).answer = some j) : (v.call i (.enter h) s).opens := by
  rw [Call.opens, henter]
  rfl

mutual

theorem Tree.Runs.exists_opens_of_leave {p : Path} {i : ι} {t : Tree} {s : σ} {r : Run ι σ}
    (hr : t.Runs w v p i s r) : ∀ x ∈ r.trail, x.2.isLeave →
      ∃ c, (x.1, c) ∈ r.trail ∧ c.opens ∧ c.receiver = x.2.receiver := by
  intro x hx hleave
  cases hr with
  | pruned henter =>
    obtain rfl := List.mem_singleton.1 hx
    cases hleave
  | refused henter =>
    obtain rfl := List.mem_singleton.1 hx
    cases hleave
  | left henter hbelow =>
    rcases mem_enclosed.1 hx with rfl | hx | rfl
    · cases hleave
    · obtain ⟨c, hc, hopens, hreceiver⟩ := hbelow.exists_opens_of_leave x hx hleave
      exact ⟨c, List.mem_cons_of_mem _ (List.mem_append_left _ hc), hopens, hreceiver⟩
    · exact ⟨_, List.mem_cons_self, Visitor.opens_call henter, rfl⟩
  | broken henter hbelow =>
    rcases List.mem_cons.1 hx with rfl | hx
    · cases hleave
    · obtain ⟨c, hc, hopens, hreceiver⟩ := hbelow.exists_opens_of_leave x hx hleave
      exact ⟨c, List.mem_cons_of_mem _ hc, hopens, hreceiver⟩

theorem Forest.Runs.exists_opens_of_leave {p : Path} {k : Nat} {j : ι} {f : Forest} {s : σ}
    {r : Run ι σ} (hr : f.Runs w v p k j s r) : ∀ x ∈ r.trail, x.2.isLeave →
      ∃ c, (x.1, c) ∈ r.trail ∧ c.opens ∧ c.receiver = x.2.receiver := by
  intro x hx hleave
  cases hr with
  | nil => simp at hx
  | cons hfirst hrest =>
    rcases List.mem_append.1 hx with hx | hx
    · obtain ⟨c, hc, hopens, hreceiver⟩ := hfirst.exists_opens_of_leave x hx hleave
      exact ⟨c, List.mem_append_left _ hc, hopens, hreceiver⟩
    · obtain ⟨c, hc, hopens, hreceiver⟩ := hrest.exists_opens_of_leave x hx hleave
      exact ⟨c, List.mem_append_right _ hc, hopens, hreceiver⟩
  | stop hfirst => exact hfirst.exists_opens_of_leave x hx hleave

end

/-! ### No occurrence is entered twice -/

/-- The occurrences that a trail tells to be entered. -/
def entered (trail : List (Path × Call ι σ)) : List Path :=
  (trail.filter fun x => !x.2.isLeave).map Prod.fst

theorem entered_cons_enter (p : Path) (i : ι) (h : Handle) (s : σ)
    (trail : List (Path × Call ι σ)) :
    entered ((p, v.call i (.enter h) s) :: trail) = p :: entered trail :=
  rfl

theorem entered_leave (p : Path) (i : ι) (s : σ) : entered [(p, v.call i .leave s)] = [] :=
  rfl

theorem entered_append (l l' : List (Path × Call ι σ)) :
    entered (l ++ l') = entered l ++ entered l' := by
  simp [entered]

theorem exists_of_mem_entered {trail : List (Path × Call ι σ)} {p : Path}
    (hp : p ∈ entered trail) : ∃ x ∈ trail, x.1 = p := by
  obtain ⟨x, hx, rfl⟩ := List.mem_map.1 hp
  exact ⟨x, (List.mem_filter.1 hx).1, rfl⟩

mutual

theorem Tree.Runs.nodup_entered {p : Path} {i : ι} {t : Tree} {s : σ} {r : Run ι σ}
    (hr : t.Runs w v p i s r) : (entered r.trail).Nodup := by
  cases hr with
  | pruned henter => exact List.nodup_cons.2 ⟨List.not_mem_nil, List.nodup_nil⟩
  | refused henter => exact List.nodup_cons.2 ⟨List.not_mem_nil, List.nodup_nil⟩
  | left henter hbelow =>
    rw [entered_cons_enter, entered_append, entered_leave, List.append_nil]
    refine List.nodup_cons.2 ⟨fun hp => ?_, hbelow.nodup_entered⟩
    -- the paths below the node are longer than its own
    obtain ⟨x, hx, rfl⟩ := exists_of_mem_entered hp
    exact hbelow.not_prefix_start x hx (List.prefix_refl x.1)
  | broken henter hbelow =>
    rw [entered_cons_enter]
    refine List.nodup_cons.2 ⟨fun hp => ?_, hbelow.nodup_entered⟩
    obtain ⟨x, hx, rfl⟩ := exists_of_mem_entered hp
    exact hbelow.not_prefix_start x hx (List.prefix_refl x.1)

theorem Forest.Runs.nodup_entered {p : Path} {k : Nat} {j : ι} {f : Forest} {s : σ}
    {r : Run ι σ} (hr : f.Runs w v p k j s r) : (entered r.trail).Nodup := by
  cases hr with
  | nil => exact List.nodup_nil
  | cons hfirst hrest =>
    rw [entered_append, List.nodup_append]
    refine ⟨hfirst.nodup_entered, hrest.nodup_entered, fun a ha b hb hab => ?_⟩
    obtain ⟨x, hx, rfl⟩ := exists_of_mem_entered ha
    obtain ⟨y, hy, rfl⟩ := exists_of_mem_entered hb
    exact (hrest.not_prefix_of_mem (hfirst.prefix_of_mem x hx) y hy).1 (hab ▸ List.prefix_refl x.1)
  | stop hfirst => exact hfirst.nodup_entered

end

/-! ### The innermost occurrence is left first -/

/-- The occurrences that are open after a call, innermost first, given those that are open before
it. There is no answer if a leaving is not about the innermost one. -/
def openNext (stack : List Path) (x : Path × Call ι σ) : Option (List Path) :=
  if x.2.isLeave then
    if stack.head? = some x.1 then some stack.tail else none
  else if x.2.opens then some (x.1 :: stack)
  else some stack

/-- The occurrences that are open after a trail. -/
def openAfter (stack : List Path) (trail : List (Path × Call ι σ)) : Option (List Path) :=
  trail.foldlM openNext stack

theorem openAfter_append (stack : List Path) (l l' : List (Path × Call ι σ)) :
    openAfter stack (l ++ l') = (openAfter stack l).bind fun stack' => openAfter stack' l' := by
  rw [openAfter, List.foldlM_append]
  rfl

theorem openAfter_cons_of_opens {stack : List Path} {p : Path} {c : Call ι σ} (hc : c.opens)
    (trail : List (Path × Call ι σ)) :
    openAfter stack ((p, c) :: trail) = openAfter (p :: stack) trail := by
  obtain ⟨n, j, hevent, -⟩ := Call.opens_iff.1 hc
  have hentry : c.isLeave = false := Call.isLeave_eq_false_iff.2 ⟨n, hevent⟩
  have hnext : openNext stack (p, c) = some (p :: stack) := by simp [openNext, hc, hentry]
  rw [openAfter, List.foldlM_cons, hnext]
  rfl

theorem openAfter_of_prunes {stack : List Path} {p : Path} {c : Call ι σ} (hc : c.prunes) :
    openAfter stack [(p, c)] = some stack := by
  obtain ⟨n, hevent, hanswer⟩ := Call.prunes_iff.1 hc
  have hentry : c.isLeave = false := Call.isLeave_eq_false_iff.2 ⟨n, hevent⟩
  simp [openAfter, openNext, hentry, Call.opens, hanswer]

theorem openAfter_of_isLeave {stack : List Path} {p : Path} {c : Call ι σ} (hc : c.isLeave) :
    openAfter (p :: stack) [(p, c)] = some stack := by
  simp [openAfter, openNext, hc]

mutual

/-- A run only opens occurrences on top of those that are open before it, and one that succeeds
closes again what it opens. -/
theorem Tree.Runs.openAfter_trail {p : Path} {i : ι} {t : Tree} {s : σ} {r : Run ι σ}
    (hr : t.Runs w v p i s r) (stack : List Path) :
    ∃ top, openAfter stack r.trail = some (top ++ stack) ∧ (r.result = .ok () → top = []) := by
  cases hr with
  | pruned henter =>
    have hprunes := Call.prunes_iff.2 ⟨_, rfl, henter⟩
    exact ⟨[], openAfter_of_prunes hprunes, fun _ => rfl⟩
  | refused henter =>
    exact ⟨[p], openAfter_cons_of_opens (Visitor.opens_call henter) [], fun hok => by cases hok⟩
  | left henter hbelow =>
    obtain ⟨top, hopen, hclosed⟩ := hbelow.openAfter_trail (p :: stack)
    obtain rfl := hclosed rfl
    refine ⟨[], ?_, fun _ => rfl⟩
    -- below the node nothing stays open, so the leaving finds the node itself on top
    rw [openAfter_cons_of_opens (Visitor.opens_call henter), openAfter_append, hopen]
    exact openAfter_of_isLeave rfl
  | broken henter hbelow =>
    obtain ⟨top, hopen, -⟩ := hbelow.openAfter_trail (p :: stack)
    refine ⟨top ++ [p], ?_, fun hok => by cases hok⟩
    rw [openAfter_cons_of_opens (Visitor.opens_call henter), hopen, List.append_assoc]
    rfl

theorem Forest.Runs.openAfter_trail {p : Path} {k : Nat} {j : ι} {f : Forest} {s : σ}
    {r : Run ι σ} (hr : f.Runs w v p k j s r) (stack : List Path) :
    ∃ top, openAfter stack r.trail = some (top ++ stack) ∧ (r.result = .ok () → top = []) := by
  cases hr with
  | nil => exact ⟨[], rfl, fun _ => rfl⟩
  | cons hfirst hrest =>
    obtain ⟨top, hopen, hclosed⟩ := hfirst.openAfter_trail stack
    obtain rfl := hclosed rfl
    obtain ⟨top, hopen', hclosed'⟩ := hrest.openAfter_trail stack
    refine ⟨top, ?_, hclosed'⟩
    rw [openAfter_append, hopen]
    exact hopen'
  | stop hfirst => exact hfirst.openAfter_trail stack

end

/-! ### The trail of a walk -/

/-- A visitor that prunes hears of nothing else. -/
theorem Tree.Runs.trail_of_answer_eq_none {p : Path} {i : ι} {t : Tree} {s : σ} {r : Run ι σ}
    (hr : t.Runs w v p i s r) (hanswer : (v.call i (.enter t.handle) s).answer = none) :
    r.trail = [(p, v.call i (.enter t.handle) s)] := by
  cases hr with
  | pruned henter => rfl
  | refused henter => cases henter.symm.trans hanswer
  | left henter hbelow => cases henter.symm.trans hanswer
  | broken henter hbelow => cases henter.symm.trans hanswer

namespace Walker

variable {i : ι} {h : Handle} {s : σ}

/-- What a walk does at and below an occurrence that it enters. -/
theorem hasPart_of_mem_trail {p : Path} {c : Call ι σ} (hc : (p, c) ∈ w.trail v i h s)
    (hentry : c.isLeave = false) :
    ∃ n part, (w.descend p h).2 = .ok n ∧ c = v.call c.receiver (.enter n) c.before ∧
      (w.unfold n).Runs w v p c.receiver c.before part ∧ (w.run v i h s).HasPart p part := by
  obtain ⟨q, u, part, hpath, hu, hcall, hruns, hpart⟩ :=
    (w.runs v i h s).hasPart_of_mem (p, c) hc hentry
  obtain rfl : p = q := hpath
  rw [w.at?_unfold, Option.map_eq_some_iff] at hu
  obtain ⟨n, hn, rfl⟩ := hu
  rw [w.handle_unfold] at hcall
  refine ⟨n, part, ?_, hcall, hruns, hpart⟩
  cases hd : (w.descend p h).2 with
  | error e => simp [hd, Except.toOption] at hn
  | ok n' => simpa [hd, Except.toOption] using hn

/-- A call that tells of an entry tells of the node at its path. -/
theorem descend_of_mem_trail {p : Path} {c : Call ι σ} {n : Handle}
    (hc : (p, c) ∈ w.trail v i h s) (hn : c.event = .enter n) : (w.descend p h).2 = .ok n := by
  obtain ⟨n', part, hd, hcall, -, -⟩ :=
    hasPart_of_mem_trail hc (Call.isLeave_eq_false_iff.2 ⟨n, hn⟩)
  rw [hcall] at hn
  cases hn
  exact hd

/-- At and below a pruned occurrence there is the one call only. -/
theorem alone_of_prunes {p : Path} {c : Call ι σ} (hc : (p, c) ∈ w.trail v i h s)
    (hprunes : c.prunes) :
    ∃ before later, w.trail v i h s = before ++ (p, c) :: later ∧
      ∀ y ∈ before ++ later, ¬ p <+: y.1 := by
  obtain ⟨n, hevent, hanswer⟩ := Call.prunes_iff.1 hprunes
  obtain ⟨n', part, -, hcall, hruns, before, later, htrail, hothers, -⟩ :=
    hasPart_of_mem_trail hc (Call.isLeave_eq_false_iff.2 ⟨n, hevent⟩)
  have hpart : part.trail = [(p, c)] := by
    rw [hcall, ← w.handle_unfold n'] at hanswer
    rw [hruns.trail_of_answer_eq_none hanswer, w.handle_unfold, ← hcall]
  refine ⟨before, later, ?_, hothers⟩
  rw [trail, htrail, hpart, List.append_assoc, List.singleton_append]

/-- A trail places the calls of a walk in the unfolding of the root. -/
structure Places (w : Walker) (h : Handle) (calls : List (Call ι σ))
    (trail : List (Path × Call ι σ)) : Prop where
  /-- The trail has the same calls in the same order. -/
  calls_eq : trail.map Prod.snd = calls
  /-- The path of an entry leads to the node that is entered. -/
  descend_eq : ∀ p c n, (p, c) ∈ trail → c.event = .enter n → (w.descend p h).2 = .ok n
  /-- No occurrence is entered twice. -/
  distinct : (entered trail).Nodup
  /-- A leaving is about the innermost occurrence that is open. -/
  innermost : (openAfter [] trail).isSome

theorem places_trail (w : Walker) (v : Visitor ι σ) (i : ι) (h : Handle) (s : σ) :
    w.Places h (w.calls v i h s) (w.trail v i h s) where
  calls_eq := w.map_snd_trail v i h s
  descend_eq _ _ _ hc hn := descend_of_mem_trail hc hn
  distinct := (w.runs v i h s).nodup_entered
  innermost := by
    obtain ⟨top, hopen, -⟩ := (w.runs v i h s).openAfter_trail []
    rw [Option.isSome_iff_exists]
    exact ⟨_, hopen⟩

end Walker

end SqlTree
