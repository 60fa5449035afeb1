import LineSieve.Proofs.Regex.Groups
import LineSieve.Proofs.Regex.Remainder
import LineSieve.Regex.Basic

/-!
# Patterns with a group for the rest of a line behind them

A group that is put behind a pattern is its last group, and a match goes up to the end of the line,
if the pattern ends plainly: not in one of several branches, with blanks that count, and with no
flag in force that makes the group lazy or lets it stop before a carriage return.
-/

namespace LineSieve.Regex

/-! ### Expressions -/

namespace Expr

/-- Group `k` with one member or more, as many as there are. -/
def restGroup (members : CharSet) (k : Nat) : Expr :=
  .capture k (.repetition 1 none true (.set members))

variable {members : CharSet} {k : Nat} {es : List Expr}

theorem consItem_append_restGroup (e : Expr) (es : List Expr) :
    consItem e (es ++ [restGroup members k]) = consItem e es ++ [restGroup members k] := by
  cases e with
  | literal s =>
    cases es with
    | nil => rfl
    | cons e' rest => cases e' <;> rfl
  | _ => rfl

theorem flatItems_append_restGroup (es : List Expr) :
    flatItems (es ++ [restGroup members k]) = flatItems es ++ [restGroup members k] := by
  fun_induction flatItems es with
  | case1 => rfl
  | case2 items rest ih =>
    rw [List.cons_append, flatItems, ih]
    clear ih
    induction items with
    | nil => rfl
    | cons item items ih => rw [List.foldr_cons, ih, consItem_append_restGroup, List.foldr_cons]
  | case3 e rest hsequence ih =>
    rw [List.cons_append, flatItems, ih, consItem_append_restGroup]
    exact hsequence

theorem captureBoundOfAll_append_restGroup (h : AllBelow k es) :
    captureBoundOfAll (es ++ [restGroup members k]) = k + 1 := by
  induction es with
  | nil => simp [captureBoundOfAll, captureBound, restGroup]
  | cons e rest ih =>
    obtain ⟨he, hrest⟩ := List.forall_mem_cons.mp h
    rw [List.cons_append, captureBoundOfAll, ih hrest]
    exact Nat.max_eq_right (Nat.le_succ_of_le he)

theorem captureBound_inSequence (es : List Expr) :
    (inSequence es).captureBound = captureBoundOfAll (flatItems es) := by
  unfold inSequence
  split
  · next heq => rw [heq]; rfl
  · next heq => rw [heq, captureBoundOfAll, captureBoundOfAll, Nat.max_zero]
  · rfl

end Expr

/-! ### Programs -/

namespace Program

variable {members : CharSet} {k : Nat} {es : List Expr}

theorem emitAll_append (es others : List Expr) (next : Nat) (code : Code) :
    emitAll (es ++ others) next code =
      emitAll es (emitAll others next code).1 (emitAll others next code).2 := by
  induction es with
  | nil => rfl
  | cons e rest ih => rw [List.cons_append, emitAll, ih, emitAll]

theorem emitExpr_inSequence (es : List Expr) (next : Nat) (code : Code) :
    emitExpr (Expr.inSequence es) next code = emitAll (Expr.flatItems es) next code := by
  unfold Expr.inSequence
  split
  · next heq => rw [heq]; rfl
  · next heq => rw [heq]; rfl
  · rfl

/-- The code of the group, behind the whole match. -/
theorem emitAll_restGroup (members : CharSet) (k : Nat) :
    emitAll [.restGroup members k] 2 #[.stuck, .accept, .save 1 1] = (6, restCode members k) :=
  rfl

/-- The group is the last one. -/
theorem groups_ofExpr (hk : 0 < k) (hes : Expr.AllBelow k es) :
    (ofExpr (Expr.inSequence (es ++ [.restGroup members k]))).groups = k + 1 := by
  have hbound : (Expr.inSequence (es ++ [.restGroup members k])).captureBound = k + 1 := by
    rw [Expr.captureBound_inSequence, Expr.flatItems_append_restGroup,
      Expr.captureBoundOfAll_append_restGroup (Expr.allBelow_flatItems hes)]
  rw [ofExpr]
  dsimp only
  rw [Expr.captureBound, hbound]
  omega

theorem le_foldl_successors (n : Nat) (is : List Inst) :
    n ≤ is.foldl (fun n i => n + i.successors) n := by
  induction is generalizing n with
  | nil => exact Nat.le_refl n
  | cons i rest ih => exact Nat.le_trans (Nat.le_add_right n i.successors) (ih _)

/-- The instructions of the group alone are enough to follow a thread through it. -/
theorem four_le_foldl_successors {code : Code} (h : OnTop (restCode members k) 6 code) :
    4 ≤ code.foldl (fun n i => n + i.successors) 1 := by
  have hbase : (restCode members k).toList <+: code.toList := by
    rw [List.prefix_iff_getElem?]
    intro a ha
    rw [Array.getElem?_toList, h.below a ha, ← Array.getElem?_toList]
    exact List.getElem?_eq_getElem ha
  obtain ⟨rest, hcode⟩ := hbase
  rw [← Array.foldl_toList, ← hcode, List.foldl_append]
  exact Nat.le_trans (by decide) (le_foldl_successors 7 rest)

/-- The program of a sequence whose last item is the group. -/
theorem endsWithRest_ofExpr (members : CharSet) (hk : 0 < k) (hes : Expr.AllBelow k es) :
    EndsWithRest (ofExpr (Expr.inSequence (es ++ [.restGroup members k]))) members k := by
  have hitems : Starts (restCode members k) 6 (emitExpr
      (Expr.inSequence (es ++ [.restGroup members k])) 2 #[.stuck, .accept, .save 1 1]) := by
    rw [emitExpr_inSequence, Expr.flatItems_append_restGroup, emitAll_append, emitAll_restGroup]
    exact starts_emitAll _ _ _ (starts_exit _ _)
  have hwhole : Starts (restCode members k) 6 (emitExpr
      (.capture 0 (Expr.inSequence (es ++ [.restGroup members k]))) 1 #[.stuck, .accept]) :=
    starts_emit hitems.onTop (staysIn_of_targets nofun rfl hitems.within)
  exact ⟨hwhole, hk, (groups_ofExpr hk hes).symm ▸ Nat.lt_succ_self k,
    four_le_foldl_successors hwhole.onTop⟩

end Program

/-! ### Reading -/

namespace Reader

/-- The state behind a pattern that is read by itself. -/
def State.behind? (cs : List Char) : Option State := State.run? (cs.length + 1) (.start cs)

/-- What is read of the text of a group for the rest of a line. -/
def restAst (index : Nat) : Ast := .group (.capture index) (.repetition 1 none true .dot)

theorem State.rest_of_run? {fuel : Nat} {st next : State} (h : State.run? fuel st = some next) :
    next.rest = [] := by
  induction fuel generalizing st with
  | zero => cases h
  | succ fuel ih =>
    unfold State.run? at h
    split at h
    · cases h
      rfl
    · obtain ⟨mid, -, hrest⟩ := Option.bind_eq_some_iff.mp h
      exact ih hrest

/-- A group behind a pattern without open branches is read as its last item. -/
theorem read?_append_restGroup {cs : List Char} {st : State} {a : Ast}
    (h : State.behind? cs = some st) (hbranches : st.branches = []) (hverbose : st.verbose = false)
    (hread : read? (cs ++ restGroup) = some a) :
    a = sequenceOf (restAst (st.captures + 1) :: st.items) := by
  obtain ⟨left, hleft⟩ := State.run?_append h hverbose 4
  have hrun : State.run? ((cs ++ restGroup).length + 1) (.start (cs ++ restGroup)) =
      some { st with
        items := restAst (st.captures + 1) :: st.items, captures := st.captures + 1 } := by
    have hfuel : (cs ++ restGroup).length + 1 = cs.length + 1 + 4 := by
      rw [List.length_append, Nat.add_right_comm]
      rfl
    rw [hfuel]
    exact hleft.trans (State.run?_restGroup (State.rest_of_run? h) hverbose left)
  unfold read? at hread
  rw [hrun] at hread
  dsimp only at hread
  split_ifs at hread
  cases hread
  rw [State.body, hbranches]
  rfl

end Reader

/-! ### Meaning -/

theorem meanings?_append {flags : Flags} (items others : List Ast) :
    Ast.meanings? flags (items ++ others) =
      (Ast.meanings? flags items).bind fun (es, behind) =>
        (Ast.meanings? behind others).map fun (es', last) => (es ++ es', last) := by
  induction items generalizing flags with
  | nil =>
    rw [List.nil_append, Ast.meanings?, Option.bind_some]
    exact Option.map_id'.symm
  | cons a rest ih =>
    rw [List.cons_append, Ast.meanings?, Ast.meanings?]
    cases a.meaning? flags with
    | none => rfl
    | some meaning =>
      simp [ih, Option.bind_map, Option.map_bind, Function.comp_def]

theorem toNat_le_maxCode (c : Char) : c.toNat ≤ CharSet.maxCode := by
  have hvalid : c.toNat < 0xD800 ∨ 0xDFFF < c.toNat ∧ c.toNat < 0x110000 := c.valid
  rw [CharSet.maxCode]
  omega

theorem contains_of_dot? {flags : Flags} {members : CharSet} (hcrlf : flags.crlf = false)
    (h : flags.dot? = some members) :
    members.onlyMember? = none ∧ ∀ c, c ≠ '\n' → members.contains c = true := by
  unfold Flags.dot? at h
  rw [hcrlf, if_neg Bool.false_ne_true] at h
  split_ifs at h <;> cases h
  · refine ⟨rfl, fun c _ => ?_⟩
    have hmax := toNat_le_maxCode c
    simp [CharSet.contains, CharSet.all, CharSet.ofRange, CharSet.containsCode, hmax]
  · have hranges : (CharSet.single '\n').complement = ⟨[⟨0, 9⟩, ⟨11, CharSet.maxCode⟩]⟩ := rfl
    rw [hranges]
    refine ⟨rfl, fun c hc => ?_⟩
    have hmax := toNat_le_maxCode c
    have hne : c.toNat ≠ 10 := fun heq => hc (Char.toNat_inj.mp heq)
    simp only [CharSet.contains, CharSet.containsCode]
    split_ifs <;> first | rfl | omega

/-- The group means the characters up to the end of the line, as many as there are. -/
theorem meaning?_restAst {flags behind : Flags} {e : Expr} {k : Nat}
    (hgreed : flags.swapGreed = false) (hcrlf : flags.crlf = false)
    (h : (Reader.restAst k).meaning? flags = some (e, behind)) :
    ∃ members : CharSet, e = .restGroup members k ∧
      ∀ c, c ≠ '\n' → members.contains c = true := by
  rw [Reader.restAst, Ast.meaning?, Ast.meaning?, Ast.meaning?, Option.map_map,
    Option.map_map, Option.map_eq_some_iff] at h
  obtain ⟨members, hdot, heq⟩ := h
  obtain ⟨honly, hmembers⟩ := contains_of_dot? hcrlf hdot
  refine ⟨members, ?_, hmembers⟩
  cases heq
  simp [Expr.restGroup, Expr.ofSet, honly, Expr.repeated, Expr.onlyEmpty, hgreed]

/-- Items with the group behind them mean a sequence with the group as its last item. -/
theorem meaning?_sequenceOf_restAst {flags behind : Flags} {items : List Ast} {es : List Expr}
    {e : Expr} {k : Nat} (hitems : Ast.meanings? {} items.reverse = some (es, flags))
    (hgreed : flags.swapGreed = false) (hcrlf : flags.crlf = false)
    (h : (Reader.sequenceOf (Reader.restAst k :: items)).meaning? {} = some (e, behind)) :
    ∃ members : CharSet, e = .inSequence (es ++ [.restGroup members k]) ∧
      ∀ c, c ≠ '\n' → members.contains c = true := by
  cases items with
  | nil =>
    rw [List.reverse_nil, Ast.meanings?] at hitems
    cases hitems
    exact meaning?_restAst hgreed hcrlf h
  | cons a rest =>
    have hsequence : Reader.sequenceOf (Reader.restAst k :: a :: rest) =
        .concat ((a :: rest).reverse ++ [Reader.restAst k]) := by
      rw [← List.reverse_cons]
      rfl
    rw [hsequence, Ast.meaning?, meanings?_append, hitems, Option.bind_some, Option.map_map,
      Option.map_eq_some_iff] at h
    obtain ⟨⟨last, behind'⟩, hlast, heq⟩ := h
    cases heq
    rw [Ast.meanings?] at hlast
    cases hgroup : (Reader.restAst k).meaning? flags with
    | none => simp [hgroup] at hlast
    | some meaning =>
      obtain ⟨members, heq, hmembers⟩ := meaning?_restAst hgreed hcrlf hgroup
      simp only [hgroup, heq, Ast.meanings?, Option.map_some, Option.some.injEq] at hlast
      cases hlast
      exact ⟨members, rfl, hmembers⟩

/-! ### Matches -/

/-- The last two slots tell what the last group holds. -/
theorem piecesOf_eq_append (line : List Char) {slots : Slots} {n start stop : Nat}
    (hlength : slots.length = 2 * (n + 1)) (hstart : slots[2 * n]? = some (some start))
    (hstop : slots[2 * n + 1]? = some (some stop)) :
    ∃ before, before.length = n ∧
      piecesOf line slots = before ++ [some (piece line start stop)] := by
  induction n generalizing slots with
  | zero =>
    match slots, hlength with
    | [a, b], _ =>
      cases hstart
      cases hstop
      exact ⟨[], rfl, rfl⟩
  | succ n ih =>
    match slots, hlength with
    | a :: b :: rest, hlength =>
      have hrest : rest.length = 2 * (n + 1) := by
        simp only [List.length_cons] at hlength
        omega
      obtain ⟨before, hbefore, hpieces⟩ := ih hrest hstart hstop
      obtain ⟨first, hcons⟩ : ∃ first, piecesOf line (a :: b :: rest) =
          first :: piecesOf line rest := ⟨_, rfl⟩
      refine ⟨first :: before, by rw [List.length_cons, hbefore], ?_⟩
      rw [hcons, hpieces, List.cons_append]

/-! ### Patterns -/

/-- Does a pattern end outside of the branches of an alternation, where blanks count and where `.+`
takes as much of a line as there is? -/
def endsPlainly (pattern : String) : Bool :=
  (Reader.State.behind? pattern.toList).any fun st =>
    st.branches.isEmpty && !st.verbose &&
      (Ast.meanings? {} st.items.reverse).any fun (_, flags) => !flags.swapGreed && !flags.crlf

/-- How many groups a pattern has. -/
def groupCount (pattern : String) : Nat :=
  ((Reader.State.behind? pattern.toList).map Reader.State.captures).getD 0

/-- The program of a pattern that ends plainly, with the group behind it. -/
theorem endsWithRest_of_parse? {pattern : String} {regex : Regex}
    (hends : endsPlainly pattern = true)
    (hparse : parse? (pattern ++ String.ofList Reader.restGroup) = some regex) :
    ∃ members : CharSet, EndsWithRest regex.program members (groupCount pattern + 1) ∧
      regex.program.groups = groupCount pattern + 2 ∧
      ∀ c, c ≠ '\n' → members.contains c = true := by
  unfold endsPlainly at hends
  rw [Option.any_eq_true] at hends
  obtain ⟨st, hst, hends⟩ := hends
  simp only [Bool.and_eq_true, Option.any_eq_true, List.isEmpty_iff, Bool.not_eq_true'] at hends
  obtain ⟨⟨hbranches, hverbose⟩, ⟨es, flags⟩, hitems, hgreed, hcrlf⟩ := hends
  have hcount : groupCount pattern = st.captures := by
    rw [groupCount, hst]
    rfl
  have hbelow : Expr.AllBelow (st.captures + 1) es := by
    refine allBelow_of_meanings? (Ast.captureBoundOfAll_le_iff.mpr fun a ha => ?_) hitems
    exact ((Reader.State.numbered_start _).run? hst).items a (List.mem_reverse.mp ha)
  unfold parse? at hparse
  rw [String.toList_append, String.toList_ofList] at hparse
  cases hread : Reader.read? (pattern.toList ++ Reader.restGroup) with
  | none => simp [hread] at hparse
  | some a =>
    have ha := Reader.read?_append_restGroup hst hbranches hverbose hread
    subst ha
    simp only [hread] at hparse
    split at hparse
    · cases hparse
    · next e behind hmeaning =>
      obtain ⟨members, rfl, hmembers⟩ := meaning?_sequenceOf_restAst hitems hgreed hcrlf hmeaning
      split_ifs at hparse
      cases hparse
      rw [hcount]
      exact ⟨members, Program.endsWithRest_ofExpr members (Nat.succ_pos _) hbelow,
        Program.groups_ofExpr (Nat.succ_pos _) hbelow, hmembers⟩

/-- A match of a pattern that ends plainly, with the group behind it, goes up to the end of the
line: the group takes part and holds what is left of the line. -/
theorem captures_eq_append {pattern : String} {regex : Regex} {line : List Char}
    {groups : List (Option (List Char))} (hends : endsPlainly pattern = true)
    (hparse : parse? (pattern ++ String.ofList Reader.restGroup) = some regex)
    (hline : '\n' ∉ line) (hmatch : regex.captures line = some groups) :
    ∃ before start, before.length = groupCount pattern + 1 ∧ start < line.length ∧
      groups = before ++ [some (line.drop start)] := by
  obtain ⟨members, hprogram, hgroups, hmembers⟩ := endsWithRest_of_parse? hends hparse
  obtain ⟨slots, hslots, rfl⟩ := Option.map_eq_some_iff.mp hmatch
  have htakes : ∀ c ∈ line, members.contains c = true :=
    fun c hc => hmembers c fun heq => hline (heq ▸ hc)
  obtain ⟨hlength, start, hless, hstart, hstop⟩ := hprogram.slots_of_search htakes hslots
  rw [hgroups] at hlength
  obtain ⟨before, hbefore, hpieces⟩ := piecesOf_eq_append line hlength hstart hstop
  refine ⟨before, start, hbefore, hless, ?_⟩
  rw [hpieces, piece, List.take_of_length_le (by rw [List.length_drop])]

end LineSieve.Regex
