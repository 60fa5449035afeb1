import Mathlib.Tactic.SplitIfs
import LineSieve.Proofs.Regex.Reading
import LineSieve.Regex.Meaning

/-!
# Indices of groups

The groups of a pattern are counted as they are opened. Simplifying an expression drops or copies
groups but makes none, so no group of a pattern has a greater index than there are groups read.
-/

namespace LineSieve.Regex

variable {n : Nat}

/-! ### Expressions -/

namespace Expr

variable {e : Expr} {es : List Expr}

/-- Expressions none of which has a capture with an index from `n` on. -/
def AllBelow (n : Nat) (es : List Expr) : Prop := ∀ e ∈ es, e.captureBound ≤ n

theorem allBelow_iff : AllBelow n es ↔ captureBoundOfAll es ≤ n := by
  induction es with
  | nil => simp [AllBelow, captureBoundOfAll]
  | cons e rest ih =>
    rw [AllBelow, List.forall_mem_cons, ← AllBelow, ih, captureBoundOfAll, Nat.max_le]

theorem captureBound_ofSet_le (members : CharSet) : (ofSet members).captureBound ≤ n := by
  unfold ofSet
  split
  · exact Nat.zero_le n
  · exact Nat.zero_le n

theorem captureBound_repeated_le (min : Nat) (max : Option Nat) (greedy : Bool)
    (h : e.captureBound ≤ n) : (repeated min max greedy e).captureBound ≤ n := by
  unfold repeated
  split
  split_ifs
  · exact Nat.zero_le n
  · exact h
  · simpa [captureBound] using h

theorem allBelow_consItem (he : e.captureBound ≤ n) (hes : AllBelow n es) :
    AllBelow n (consItem e es) := by
  unfold consItem
  split
  · exact hes
  · exact List.forall_mem_cons.mpr ⟨Nat.zero_le n, (List.forall_mem_cons.mp hes).2⟩
  · exact List.forall_mem_cons.mpr ⟨he, hes⟩

theorem allBelow_foldr_consItem {items : List Expr} (hitems : AllBelow n items)
    (hes : AllBelow n es) : AllBelow n (items.foldr consItem es) := by
  induction items with
  | nil => exact hes
  | cons item rest ih =>
    obtain ⟨hitem, hrest⟩ := List.forall_mem_cons.mp hitems
    exact allBelow_consItem hitem (ih hrest)

theorem allBelow_flatItems (h : AllBelow n es) : AllBelow n (flatItems es) := by
  fun_induction flatItems es with
  | case1 => exact h
  | case2 items rest ih =>
    obtain ⟨hitems, hrest⟩ := List.forall_mem_cons.mp h
    rw [captureBound, ← allBelow_iff] at hitems
    exact allBelow_foldr_consItem hitems (ih hrest)
  | case3 e rest _ ih =>
    obtain ⟨he, hrest⟩ := List.forall_mem_cons.mp h
    exact allBelow_consItem he (ih hrest)

theorem captureBound_inSequence_le (h : AllBelow n es) : (inSequence es).captureBound ≤ n := by
  have hflat := allBelow_flatItems h
  unfold inSequence
  split
  · exact Nat.zero_le n
  · next heq =>
    rw [heq] at hflat
    exact hflat _ List.mem_cons_self
  · rw [captureBound, ← allBelow_iff]
    exact hflat

theorem allBelow_flatBranches (h : AllBelow n es) : AllBelow n (flatBranches es) := by
  fun_induction flatBranches es with
  | case1 => exact h
  | case2 branches rest ih =>
    obtain ⟨hbranches, hrest⟩ := List.forall_mem_cons.mp h
    rw [captureBound, ← allBelow_iff] at hbranches
    exact List.forall_mem_append.mpr ⟨hbranches, ih hrest⟩
  | case3 e rest _ ih =>
    obtain ⟨he, hrest⟩ := List.forall_mem_cons.mp h
    exact List.forall_mem_cons.mpr ⟨he, ih hrest⟩

theorem allBelow_items {items : List Expr} (h : e.captureBound ≤ n)
    (hitems : e.items? = some items) : AllBelow n items := by
  cases e <;> cases hitems
  rwa [captureBound, ← allBelow_iff] at h

theorem commonStart_isPrefix (es others : List Expr) : commonStart es others <+: es := by
  induction es generalizing others with
  | nil => cases others <;> exact List.nil_prefix
  | cons e rest ih =>
    cases others with
    | nil => exact List.nil_prefix
    | cons e' rest' =>
      unfold commonStart
      split_ifs
      · exact List.cons_prefix_cons.mpr ⟨rfl, ih rest'⟩
      · exact List.nil_prefix

theorem foldl_commonStart_isPrefix (es : List Expr) (others : List (List Expr)) :
    others.foldl commonStart es <+: es := by
  induction others generalizing es with
  | nil => exact List.prefix_refl es
  | cons other rest ih => exact (ih _).trans (commonStart_isPrefix es other)

theorem allBelow_sharedStart (h : AllBelow n es) : AllBelow n (sharedStart es) := by
  unfold sharedStart
  split
  · next items rest heq =>
    cases es with
    | nil => simp at heq
    | cons e others =>
      rw [List.mapM_cons] at heq
      obtain ⟨first, hfirst, heq⟩ := Option.bind_eq_some_iff.mp heq
      obtain ⟨more, -, heq⟩ := Option.bind_eq_some_iff.mp heq
      cases heq
      have hitems := allBelow_items (List.forall_mem_cons.mp h).1 hfirst
      intro x hx
      exact hitems x ((foldl_commonStart_isPrefix items rest).subset hx)
  · exact nofun

theorem captureBound_choiceWithin_le (fuel : Nat) (h : AllBelow n es) :
    (choiceWithin fuel es).captureBound ≤ n := by
  induction fuel generalizing es with
  | zero => rwa [choiceWithin, captureBound, ← allBelow_iff]
  | succ fuel ih =>
    have hflat := allBelow_flatBranches h
    unfold choiceWithin
    split
    · exact Nat.zero_le n
    · next heq =>
      rw [heq] at hflat
      exact hflat _ List.mem_cons_self
    · split
      · exact captureBound_ofSet_le _
      · exact captureBound_ofSet_le _
      · have hstart := allBelow_sharedStart hflat
        split
        · rw [captureBound, ← allBelow_iff]
          exact hflat
        · refine captureBound_inSequence_le (List.forall_mem_append.mpr ⟨hstart, ?_⟩)
          refine List.forall_mem_singleton.mpr (ih (List.forall_mem_map.mpr fun e he => ?_))
          refine captureBound_inSequence_le fun x hx => ?_
          cases hitems : e.items? with
          | none => simp [hitems] at hx
          | some items =>
            rw [hitems, Option.getD_some] at hx
            exact allBelow_items (hflat e he) hitems x (List.mem_of_mem_drop hx)

theorem captureBound_inChoice_le (h : AllBelow n es) : (inChoice es).captureBound ≤ n :=
  captureBound_choiceWithin_le _ h

end Expr

/-! ### Patterns -/

mutual

/-- One more than the greatest index of a group in a pattern. -/
def Ast.captureBound : Ast → Nat
  | .repetition _ _ _ body => body.captureBound
  | .group (.capture index) body => max (index + 1) body.captureBound
  | .group (.flags _) body => body.captureBound
  | .alternation branches => Ast.captureBoundOfAll branches
  | .concat items => Ast.captureBoundOfAll items
  | _ => 0

/-- One more than the greatest index of a group in a list of patterns. -/
def Ast.captureBoundOfAll : List Ast → Nat
  | [] => 0
  | a :: rest => max a.captureBound (Ast.captureBoundOfAll rest)

end

theorem Ast.captureBoundOfAll_le_iff {items : List Ast} :
    Ast.captureBoundOfAll items ≤ n ↔ ∀ a ∈ items, a.captureBound ≤ n := by
  induction items with
  | nil => simp [Ast.captureBoundOfAll]
  | cons a rest ih => rw [Ast.captureBoundOfAll, Nat.max_le, ih, List.forall_mem_cons]

mutual

theorem captureBound_of_meaning? {flags behind : Flags} {a : Ast} {e : Expr}
    (ha : a.captureBound ≤ n) (h : a.meaning? flags = some (e, behind)) : e.captureBound ≤ n := by
  cases a with
  | empty | flags _ | anchor _ =>
    rw [Ast.meaning?] at h
    cases h
    exact Nat.zero_le n
  | literal _ | dot | short _ _ | property _ _ | bracketed _ _ =>
    rw [Ast.meaning?, Option.map_eq_some_iff] at h
    obtain ⟨set, -, heq⟩ := h
    cases heq
    exact Expr.captureBound_ofSet_le _
  | repetition min max greedy body =>
    rw [Ast.meaning?, Option.map_eq_some_iff] at h
    obtain ⟨⟨e', flags'⟩, hbody, heq⟩ := h
    cases heq
    rw [Ast.captureBound] at ha
    exact Expr.captureBound_repeated_le _ _ _ (captureBound_of_meaning? ha hbody)
  | group kind body =>
    cases kind with
    | capture index =>
      rw [Ast.meaning?, Option.map_eq_some_iff] at h
      obtain ⟨⟨e', flags'⟩, hbody, heq⟩ := h
      cases heq
      rw [Ast.captureBound, Nat.max_le] at ha
      rw [Expr.captureBound, Nat.max_le]
      exact ⟨ha.1, captureBound_of_meaning? ha.2 hbody⟩
    | flags change =>
      rw [Ast.meaning?, Option.map_eq_some_iff] at h
      obtain ⟨⟨e', flags'⟩, hbody, heq⟩ := h
      cases heq
      rw [Ast.captureBound] at ha
      exact captureBound_of_meaning? ha hbody
  | alternation branches =>
    rw [Ast.meaning?, Option.map_eq_some_iff] at h
    obtain ⟨⟨es, flags'⟩, hbranches, heq⟩ := h
    cases heq
    rw [Ast.captureBound] at ha
    exact Expr.captureBound_inChoice_le (allBelow_of_meanings? ha hbranches)
  | concat items =>
    rw [Ast.meaning?, Option.map_eq_some_iff] at h
    obtain ⟨⟨es, flags'⟩, hitems, heq⟩ := h
    cases heq
    rw [Ast.captureBound] at ha
    exact Expr.captureBound_inSequence_le (allBelow_of_meanings? ha hitems)

theorem allBelow_of_meanings? {flags behind : Flags} {items : List Ast} {es : List Expr}
    (hitems : Ast.captureBoundOfAll items ≤ n)
    (h : Ast.meanings? flags items = some (es, behind)) : Expr.AllBelow n es := by
  cases items with
  | nil =>
    rw [Ast.meanings?] at h
    cases h
    exact nofun
  | cons a rest =>
    rw [Ast.captureBoundOfAll, Nat.max_le] at hitems
    rw [Ast.meanings?] at h
    cases ha : a.meaning? flags with
    | none => simp [ha] at h
    | some meaning =>
      obtain ⟨e, flags'⟩ := meaning
      simp only [ha, Option.map_eq_some_iff] at h
      obtain ⟨⟨es', behind'⟩, hrest, heq⟩ := h
      cases heq
      exact List.forall_mem_cons.mpr ⟨captureBound_of_meaning? hitems.1 ha,
        allBelow_of_meanings? hitems.2 hrest⟩

end

/-! ### Reading -/

namespace Reader

/-- Patterns none of which has a group with an index from `n` on. -/
def AllBelow (n : Nat) (items : List Ast) : Prop := ∀ a ∈ items, a.captureBound ≤ n

theorem AllBelow.mono {m : Nat} {items : List Ast} (h : AllBelow n items) (hle : n ≤ m) :
    AllBelow m items := fun a ha => Nat.le_trans (h a ha) hle

theorem captureBound_sequenceOf_le {items : List Ast} (h : AllBelow n items) :
    (sequenceOf items).captureBound ≤ n := by
  unfold sequenceOf
  split
  · exact Nat.zero_le n
  · exact h _ List.mem_cons_self
  · rw [Ast.captureBound, Ast.captureBoundOfAll_le_iff]
    exact fun a ha => h a (List.mem_reverse.mp ha)

theorem captureBound_alternationOf_le {last : Ast} {branches : List Ast}
    (hlast : last.captureBound ≤ n) (h : AllBelow n branches) :
    (alternationOf last branches).captureBound ≤ n := by
  unfold alternationOf
  split
  · exact hlast
  · rw [Ast.captureBound, Ast.captureBoundOfAll_le_iff]
    intro a ha
    rcases List.mem_cons.mp (List.mem_reverse.mp ha) with rfl | hmem
    · exact hlast
    · exact h a hmem

/-- No group that is read or open has a greater index than there are groups. -/
structure State.Numbered (st : State) : Prop where
  items : AllBelow (st.captures + 1) st.items
  branches : AllBelow (st.captures + 1) st.branches
  outer : ∀ frame ∈ st.outer, AllBelow (st.captures + 1) frame.items ∧
    AllBelow (st.captures + 1) frame.branches ∧
    ∀ index, frame.kind = .capture index → index ≤ st.captures

variable {st next : State} {rest : List Char}

theorem State.numbered_start (cs : List Char) : (State.start cs).Numbered :=
  ⟨nofun, nofun, nofun⟩

theorem State.Numbered.push (h : st.Numbered) {a : Ast} (ha : a.captureBound ≤ st.captures + 1)
    (rest : List Char) : (st.push a rest).Numbered :=
  ⟨List.forall_mem_cons.mpr ⟨ha, h.items⟩, h.branches, h.outer⟩

theorem State.Numbered.enter (h : st.Numbered) {kind : GroupKind}
    (hkind : ∀ index, kind = .capture index → index ≤ st.captures) (verbose : Bool)
    (rest : List Char) : (st.enter kind verbose rest).Numbered :=
  ⟨nofun, nofun, List.forall_mem_cons.mpr ⟨⟨h.items, h.branches, hkind⟩, h.outer⟩⟩

theorem State.Numbered.enterCapture (h : st.Numbered) (rest : List Char) :
    (st.enterCapture rest).Numbered := by
  have hmore : ({ st with captures := st.captures + 1 } : State).Numbered := by
    refine ⟨h.items.mono (Nat.le_succ _), h.branches.mono (Nat.le_succ _), fun frame hframe => ?_⟩
    obtain ⟨hitems, hbranches, hkind⟩ := h.outer frame hframe
    exact ⟨hitems.mono (Nat.le_succ _), hbranches.mono (Nat.le_succ _),
      fun index hindex => Nat.le_succ_of_le (hkind index hindex)⟩
  refine hmore.enter (fun index hindex => ?_) _ _
  cases hindex
  exact Nat.le_refl _

theorem State.Numbered.captureBound_body_le (h : st.Numbered) :
    st.body.captureBound ≤ st.captures + 1 :=
  captureBound_alternationOf_le (captureBound_sequenceOf_le h.items) h.branches

theorem State.Numbered.closeGroup? (h : st.Numbered) (hnext : st.closeGroup? rest = some next) :
    next.Numbered := by
  unfold State.closeGroup? at hnext
  split at hnext
  · cases hnext
  · next frame outer heq =>
    cases hnext
    have houter := h.outer
    rw [heq] at houter
    obtain ⟨⟨hitems, hbranches, hkind⟩, hrest⟩ := List.forall_mem_cons.mp houter
    refine ⟨List.forall_mem_cons.mpr ⟨?_, hitems⟩, hbranches, hrest⟩
    have hbody := h.captureBound_body_le
    cases hframe : frame.kind with
    | flags change => exact hbody
    | capture index =>
      rw [Ast.captureBound, Nat.max_le]
      exact ⟨Nat.succ_le_succ (hkind index hframe), hbody⟩

theorem State.Numbered.repeat? (h : st.Numbered) {min : Nat} {max : Option Nat} {greedy : Bool}
    (hnext : st.repeat? min max greedy rest = some next) : next.Numbered := by
  have hitems := h.items
  unfold State.repeat? at hnext
  split at hnext
  · cases hnext
  · cases hnext
  · next a items _ heq =>
    cases hnext
    rw [heq] at hitems
    obtain ⟨ha, hrest⟩ := List.forall_mem_cons.mp hitems
    exact ⟨List.forall_mem_cons.mpr ⟨ha, hrest⟩, h.branches, h.outer⟩

theorem State.Numbered.openGroup? (h : st.Numbered) {cs : List Char}
    (hnext : st.openGroup? cs = some next) : next.Numbered := by
  unfold State.openGroup? at hnext
  dsimp only at hnext
  split at hnext
  · cases hnext
  · split at hnext
    · split at hnext
      · cases hnext
      · next name _ _ =>
        split at hnext
        · cases hnext
        · cases hnext
          have hnamed : ({ st with names := name :: st.names } : State).Numbered :=
            ⟨h.items, h.branches, h.outer⟩
          exact hnamed.enterCapture _
    · split at hnext
      · split at hnext
        · split at hnext
          · cases hnext
          · cases hnext
            exact ⟨List.forall_mem_cons.mpr ⟨Nat.zero_le _, h.items⟩, h.branches, h.outer⟩
        · cases hnext
          exact h.enter (fun _ heq => by cases heq) _ _
        · cases hnext
      · cases hnext
        exact h.enterCapture _

theorem State.Numbered.closeCount? (h : st.Numbered) {min : Nat} {max : Option Nat}
    {cs : List Char} (hnext : st.closeCount? min max cs = some next) : next.Numbered := by
  unfold State.closeCount? at hnext
  split at hnext
  · dsimp only at hnext
    split_ifs at hnext
    exact h.repeat? hnext
  · cases hnext

theorem State.Numbered.counted? (h : st.Numbered) {cs : List Char}
    (hnext : st.counted? cs = some next) : next.Numbered := by
  rw [State.counted?_eq] at hnext
  split at hnext
  · cases hnext
  · split at hnext
    · split at hnext
      · exact h.closeCount? hnext
      · split at hnext
        · cases hnext
        · exact h.closeCount? hnext
    · exact h.closeCount? hnext

theorem captureBound_classBody? {verbose : Bool} {fuel : Nat} {items : List ClassSet}
    {frames : List ClassFrame} {cs : List Char} {a : Ast}
    (h : classBody? verbose fuel items frames cs = some (a, rest)) : a.captureBound = 0 := by
  induction fuel generalizing items frames cs with
  | zero => cases h
  | succ fuel ih =>
    unfold classBody? at h
    dsimp only at h
    split at h
    · cases h
    · split at h
      · exact ih h
      · split at h
        · cases h
        · exact ih h
    · split at h
      · cases h
        rfl
      · exact ih h
      · cases h
    · exact ih h
    · exact ih h
    · exact ih h
    · split at h
      · cases h
      · exact ih h

theorem captureBound_class? {verbose : Bool} {cs : List Char} {a : Ast}
    (h : class? verbose cs = some (a, rest)) : a.captureBound = 0 := by
  unfold class? at h
  split at h
  · cases h
  · exact captureBound_classBody? h

theorem State.Numbered.step? (h : st.Numbered) {c : Char} (hnext : st.step? c rest = some next) :
    next.Numbered := by
  have hpush : ∀ (a : Ast) (rest : List Char), a.captureBound = 0 → (st.push a rest).Numbered :=
    fun a rest ha => h.push (by rw [ha]; exact Nat.zero_le _) rest
  unfold State.step? at hnext
  split at hnext
  · exact h.openGroup? hnext
  · exact h.closeGroup? hnext
  · cases hnext
    exact ⟨nofun, List.forall_mem_cons.mpr ⟨captureBound_sequenceOf_le h.items, h.branches⟩,
      h.outer⟩
  · obtain ⟨⟨a, behind⟩, hclass, heq⟩ := Option.map_eq_some_iff.mp hnext
    cases heq
    exact hpush a behind (captureBound_class? hclass)
  · exact h.repeat? hnext
  · exact h.repeat? hnext
  · exact h.repeat? hnext
  · exact h.counted? hnext
  · obtain ⟨⟨prim, behind⟩, -, heq⟩ := Option.map_eq_some_iff.mp hnext
    cases heq
    exact hpush _ behind (by cases prim <;> rfl)
  · cases hnext
    exact hpush _ _ rfl
  · cases hnext
    exact hpush _ _ rfl
  · cases hnext
    exact hpush _ _ rfl
  · cases hnext
    exact hpush _ _ rfl

theorem State.Numbered.run? {fuel : Nat} (h : st.Numbered) (hrun : State.run? fuel st = some next) :
    next.Numbered := by
  induction fuel generalizing st with
  | zero => cases hrun
  | succ fuel ih =>
    unfold State.run? at hrun
    split at hrun
    · cases hrun
      exact ⟨h.items, h.branches, h.outer⟩
    · obtain ⟨mid, hmid, hrest⟩ := Option.bind_eq_some_iff.mp hrun
      exact ih (h.step? hmid) hrest

end Reader
end LineSieve.Regex
