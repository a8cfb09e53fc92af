import Gatekeeper.Proofs.Pattern.Subtree

/-! What the live states tell about the text that has been read: the ways in which it is a match of the
first tokens with a part of one more. Every such part can be completed, so as long as a state is live,
some text behind matches, and when none is, matching is given up for good. -/
namespace Gatekeeper.Pattern

variable {list : List Token} {token : Token} {state : State} {stage : Nat}
  {text name rest : List Char} {names : List (List Char)}

def AreSegments (names : List (List Char)) : Prop :=
  names ≠ [] ∧ ∀ name ∈ names, name ≠ [] ∧ '/' ∉ name

theorem doubled_append_slash_iff (plain : '/' ∉ name) :
    ['/', '/'] <:+: name ++ '/' :: rest ↔ rest.head? = some '/' ∨ ['/', '/'] <:+: rest := by
  induction name with
  | nil =>
    rw [List.nil_append, List.infix_cons_iff, List.cons_prefix_cons]
    cases rest with
    | nil => simp
    | cons next rest => simp [List.cons_prefix_cons, eq_comm (a := next)]
  | cons char name ih =>
    obtain ⟨other, later⟩ := not_or.mp (mt List.mem_cons.mpr plain)
    rw [List.cons_append, List.infix_cons_iff, List.cons_prefix_cons, ih later]
    simp [other]

theorem isSegments_of_plain (inhabited : name ≠ []) (plain : '/' ∉ name) : IsSegments name := by
  refine ⟨inhabited, ?_, ?_, ?_⟩
  · exact fun first => plain (List.mem_of_head? first)
  · exact fun last => plain (List.mem_of_getLast? last)
  · exact fun doubled => plain (doubled.mem (by simp))

theorem isSegments_append_slash_iff (inhabited : name ≠ []) (plain : '/' ∉ name) :
    IsSegments (name ++ '/' :: rest) ↔ IsSegments rest := by
  have first : name.head? ≠ some '/' := fun first => plain (List.mem_of_head? first)
  simp only [IsSegments, doubled_append_slash_iff plain, List.head?_append_of_ne_nil _ inhabited,
    List.getLast?_append_cons]
  cases rest with
  | nil => simp
  | cons next rest => simp [first, not_or, and_left_comm]

theorem exists_segments {text : List Char} (segments : IsSegments text) :
    ∃ names, AreSegments names ∧ text = ['/'].intercalate names := by
  by_cases slash : '/' ∈ text
  · -- The first segment is what comes before the first slash.
    obtain ⟨name, rest, rfl, plain⟩ := List.eq_append_cons_of_mem slash
    have inhabited : name ≠ [] := by
      rintro rfl
      exact segments.2.1 rfl
    have shorter : rest.length < (name ++ '/' :: rest).length := by simp; omega
    obtain ⟨names, ⟨some, each⟩, rfl⟩ :=
      exists_segments ((isSegments_append_slash_iff inhabited plain).mp segments)
    obtain ⟨next, more, rfl⟩ := List.exists_cons_of_ne_nil some
    refine ⟨name :: next :: more, ⟨by simp, ?_⟩, by simp⟩
    exact List.forall_mem_cons.mpr ⟨⟨inhabited, plain⟩, each⟩
  · exact ⟨[text], ⟨by simp, by simpa using ⟨segments.1, slash⟩⟩, by simp⟩
termination_by text.length

theorem isSegments_iff_areSegments :
    IsSegments text ↔ ∃ names, AreSegments names ∧ text = ['/'].intercalate names := by
  refine ⟨exists_segments, ?_⟩
  rintro ⟨names, ⟨inhabited, each⟩, rfl⟩
  induction names with
  | nil => contradiction
  | cons name more ih =>
    obtain ⟨⟨here, plain⟩, later⟩ := List.forall_mem_cons.mp each
    cases more with
    | nil => simpa using isSegments_of_plain here plain
    | cons next more =>
      rw [List.intercalate_cons_cons, List.append_assoc, List.singleton_append,
        isSegments_append_slash_iff here plain]
      exact ih (by simp) later

theorem begun_zero_iff : token.Begun 0 text ↔ text = [] ∨ token = .anything := by
  cases token <;> simp [Token.Begun]

theorem begun_one_iff :
    token.Begun 1 text ↔ token = .subtree ∧ (∃ rest, text = '/' :: rest) ∨
      token = .segments ∧ ∃ names, AreSegments names ∧ text = ['/'].intercalate names := by
  cases token <;> simp [Token.Begun, isSegments_iff_areSegments]

theorem begun_two_iff :
    token.Begun 2 text ↔
      token = .segments ∧ ∃ names, AreSegments names ∧ text = ['/'].intercalate names ++ ['/'] := by
  cases token with
  | segments =>
    constructor
    · rintro (⟨⟨⟩, -⟩ | ⟨⟨⟩, -⟩ | ⟨-, whole, segments, rfl⟩)
      obtain ⟨names, each, rfl⟩ := isSegments_iff_areSegments.mp segments
      exact ⟨rfl, names, each, rfl⟩
    · rintro ⟨-, names, segments, rfl⟩
      exact .inr (.inr ⟨rfl, _, isSegments_iff_areSegments.mpr ⟨names, segments, rfl⟩, rfl⟩)
  | _ => simp [Token.Begun]

theorem not_begun_of_two_lt (beyond : 2 < stage) : ¬ token.Begun stage text := by
  cases token <;> simp [Token.Begun] <;> omega

theorem exists_completion (begun : token.Begun stage text) :
    ∃ more, text ++ more ∈ token.language := by
  cases token with
  | literal char =>
    obtain ⟨-, rfl⟩ := begun
    exact ⟨[char], rfl⟩
  | segments =>
    rcases begun with ⟨-, rfl⟩ | ⟨-, segments⟩ | ⟨-, whole, segments, rfl⟩
    · exact ⟨['a'], isSegments_of_plain (by decide) (by decide)⟩
    · exact ⟨[], by simpa using segments⟩
    · exact ⟨['a'], isSegments_concat.mpr ⟨by decide, .inr (.inr ⟨whole, segments, rfl⟩)⟩⟩
  | anything => exact ⟨[], mem_language_anything⟩
  | subtree =>
    rcases begun with ⟨-, rfl⟩ | ⟨-, rest, rfl⟩
    · exact ⟨[], .inl rfl⟩
    · exact ⟨[], .inr ⟨rest, by simp⟩⟩

theorem exists_mem_language (list : List Token) : ∃ text, text ∈ language list := by
  induction list with
  | nil => exact ⟨[], rfl⟩
  | cons token list ih =>
    have unread : token.Begun 0 [] := begun_nil_iff.mpr rfl
    obtain ⟨first, here⟩ := exists_completion unread
    obtain ⟨more, behind⟩ := ih
    rw [language_cons]
    exact ⟨_, [] ++ first, here, more, behind, rfl⟩

theorem exists_match_of_live (mem : state ∈ live list text) : ∃ more, text ++ more ∈ language list := by
  obtain ⟨before, part, rfl, inFront, begun⟩ := mem_live_iff.mp mem
  split at begun
  next token found =>
    obtain ⟨inner, here⟩ := exists_completion begun
    obtain ⟨after, behind⟩ := exists_mem_language (list.drop (state.index + 1))
    have upTo : before ++ (part ++ inner) ∈ language (list.take (state.index + 1)) :=
      (mem_language_take_succ found).mpr ⟨before, part ++ inner, rfl, inFront, here⟩
    refine ⟨inner ++ after, ?_⟩
    rw [← List.take_append_drop (state.index + 1) list, language_append]
    exact ⟨_, upTo, after, behind, by simp⟩
  next =>
    obtain ⟨rfl, rfl⟩ := begun
    exact ⟨[], by simpa using inFront⟩

theorem live_append (more : List Char) :
    live list (text ++ more) = more.foldl (next list) (live list text) :=
  List.foldl_append

/-- No state is live just if nothing behind the text makes it match. -/
theorem live_eq_nil_iff : live list text = [] ↔ ∀ more, text ++ more ∉ language list := by
  constructor
  · intro none more matched
    have last : ⟨list.length, 0⟩ ∈ live list (text ++ more) :=
      mem_live_iff.mpr (reads_last_iff.mpr matched)
    rw [live_append, none, foldl_next_nil] at last
    contradiction
  · intro unmatched
    refine List.eq_nil_iff_forall_not_mem.mpr fun state mem => ?_
    obtain ⟨more, matched⟩ := exists_match_of_live mem
    exact unmatched more matched

theorem accepts_append (pattern read rest : String) :
    accepts pattern (read ++ rest) =
      reads (compile pattern) (live (compile pattern) read.toList) rest.toList := by
  rw [accepts, reads_eq_contains, reads_eq_contains, String.toList_append, List.foldl_append]
  rfl

/-- The meaning of the live states. Behind the last token a state is live if the text that has been read
matches as a whole. At a token a state is live if the tokens before it match the start of the text, and
the rest is, by its stage: at 0 empty, or any text where the token stands for any; at 1 for a subtree a
slash with anything behind, and for segments some segments that are complete; at 2 for segments such
ones and a slash. With no state live no longer path is matched, and only then. -/
theorem live_states_tell_partial_matches (pattern read : String) :
    let list := compile pattern
    let states := live list read.toList
    (∀ rest, accepts pattern (read ++ rest) = reads list states rest.toList) ∧
    (∀ index stage, ⟨index, stage⟩ ∈ states ↔
      (index = list.length ∧ stage = 0 ∧ read.toList ∈ language list) ∨
        ∃ token, list[index]? = some token ∧ ∃ before part, before ++ part = read.toList ∧
          before ∈ language (list.take index) ∧ token.Begun stage part) ∧
    (∀ (token : Token) (part : List Char),
      (token.Begun 0 part ↔ part = [] ∨ token = .anything) ∧
      (token.Begun 1 part ↔ token = .subtree ∧ (∃ rest, part = '/' :: rest) ∨
        token = .segments ∧ ∃ names, AreSegments names ∧ part = ['/'].intercalate names) ∧
      (token.Begun 2 part ↔
        token = .segments ∧ ∃ names, AreSegments names ∧ part = ['/'].intercalate names ++ ['/']) ∧
      ∀ further, ¬ token.Begun (further + 3) part) ∧
    (states = [] ↔ ∀ rest, accepts pattern (read ++ rest) = false) := by
  intro list states
  refine ⟨accepts_append pattern read, fun index stage => ?_, fun token part =>
    ⟨begun_zero_iff, begun_one_iff, begun_two_iff, fun _ => not_begun_of_two_lt (by omega)⟩, ?_⟩
  · rw [mem_live_iff, State.Reads]
    constructor
    · rintro ⟨before, part, same, inFront, begun⟩
      split at begun
      next token found => exact .inr ⟨token, found, before, part, same, inFront, begun⟩
      next =>
        obtain ⟨⟨⟩, rfl⟩ := begun
        rw [List.append_nil] at same
        rw [List.take_length, same] at inFront
        exact .inl ⟨rfl, rfl, inFront⟩
    · rintro (⟨rfl, rfl, whole⟩ | ⟨token, found, before, part, same, inFront, begun⟩)
      · exact reads_last_iff.mpr whole
      · refine ⟨before, part, same, inFront, ?_⟩
        rw [found]
        exact begun
  · simp only [states, live_eq_nil_iff, toList_surjective.forall, ← String.toList_append,
      ← Bool.not_eq_true, accepts_iff_mem_language]
    rfl

end Gatekeeper.Pattern
