import Gatekeeper.Pattern.Token

/-! Matching by live states. A path is read once, one character at a time; the states that some
reading of the pattern can be in are kept together, so no character is read twice. -/
namespace Gatekeeper.Pattern

/-- A place in a token list. The stage tells how much of the token at `index` has been read: of
`segments`, 1 inside a segment and 2 after a slash; of `subtree`, 1 after its slash. -/
structure State where
  index : Nat
  stage : Nat
deriving DecidableEq, Repr

def skip? (list : List Token) (state : State) : Option State :=
  match list[state.index]?, state.stage with
  | some .anything, 0 | some .subtree, 0 | some .segments, 1 | some .subtree, 1 =>
    some ⟨state.index + 1, 0⟩
  | _, _ => none

theorem skip?_eq_some {list : List Token} {state next : State} (h : skip? list state = some next) :
    state.index < list.length ∧ next = ⟨state.index + 1, 0⟩ := by
  unfold skip? at h
  split at h
  case h_5 => contradiction
  all_goals
    rename_i found _
    exact ⟨(List.getElem?_eq_some_iff.mp found).1, (Option.some.inj h).symm⟩

def unreached (list : List Token) (reached : List State) : Nat :=
  (List.range list.length).countP fun index => decide (⟨index + 1, 0⟩ ∉ reached)

theorem unreached_cons_lt {list : List Token} {reached : List State} {index : Nat}
    (bound : index < list.length) (fresh : (⟨index + 1, 0⟩ : State) ∉ reached) :
    unreached list (⟨index + 1, 0⟩ :: reached) < unreached list reached := by
  unfold unreached
  rw [List.countP_eq_length_filter, List.countP_eq_length_filter]
  have sub : (List.range list.length).filter
        (fun i => decide ((⟨i + 1, 0⟩ : State) ∉ (⟨index + 1, 0⟩ : State) :: reached)) =
      ((List.range list.length).filter fun i => decide ((⟨i + 1, 0⟩ : State) ∉ reached)).filter
        (fun i => decide (i ≠ index)) := by
    rw [List.filter_filter]
    congr 1
    funext i
    simp [List.mem_cons]
  rw [sub]
  refine List.length_filter_lt_length_iff_exists.mpr ⟨index, ?_, by simp⟩
  simp [List.mem_filter, bound, fresh]

def settle (list : List Token) (reached pending : List State) : List State :=
  match pending with
  | [] => reached
  | state :: rest =>
    match _skipped : skip? list state with
    | none => settle list reached rest
    | some next =>
      if _known : next ∈ reached then settle list reached rest
      else settle list (next :: reached) (next :: rest)
termination_by (unreached list reached, pending.length)
decreasing_by
  · exact Prod.Lex.right _ (Nat.lt_succ_self _)
  · exact Prod.Lex.right _ (Nat.lt_succ_self _)
  · obtain ⟨bound, rfl⟩ := skip?_eq_some _skipped
    exact Prod.Lex.left _ _ (unreached_cons_lt bound _known)

def closure (list : List Token) (states : List State) : List State :=
  settle list states.eraseDups states.eraseDups

def step? (list : List Token) (char : Char) (state : State) : Option State :=
  match list[state.index]? with
  | none => none
  | some (.literal wanted) => if char = wanted then some ⟨state.index + 1, 0⟩ else none
  | some .anything => some ⟨state.index, 0⟩
  | some .subtree => if state.stage = 1 ∨ char = '/' then some ⟨state.index, 1⟩ else none
  | some .segments =>
    if char ≠ '/' then some ⟨state.index, 1⟩
    else if state.stage = 1 then some ⟨state.index, 2⟩
    else none

def advance (list : List Token) (states : List State) (char : Char) : List State :=
  states.filterMap (step? list char)

def start (list : List Token) : List State :=
  closure list [⟨0, 0⟩]

def next (list : List Token) (live : List State) (char : Char) : List State :=
  closure list (advance list live char)

def live (list : List Token) (path : List Char) : List State :=
  path.foldl (next list) (start list)

/-- Reads the rest of a path and gives up as soon as no state is live. -/
def reads (list : List Token) (states : List State) : List Char → Bool
  | [] => states.contains ⟨list.length, 0⟩
  | char :: rest =>
    let after := next list states char
    if after.isEmpty then false else reads list after rest

def accepts (pattern path : String) : Bool :=
  reads (compile pattern) (start (compile pattern)) path.toList

end Gatekeeper.Pattern
