import Gatekeeper.Proofs.Pattern.Canonical
import Gatekeeper.Proofs.Pattern.Language

/-! What is below a pattern. A text that is appended behind a slash does not change how the pattern in
front of it is read, unless that one ends in a subtree; so the language of the whole is put together
from those of the parts. -/
namespace Gatekeeper.Pattern

variable {list one other : List Token} {chars text front more : List Char}
  {pattern path : String}

theorem language_append : language (one ++ other) = language one * language other := by
  simp [language]

theorem language_cons {token : Token} : language (token :: list) = token.language * language list := by
  simp [language]

theorem language_single {token : Token} : language [token] = token.language := by
  simp [language]

theorem mem_language_literal_cons {char : Char} :
    text ∈ language (.literal char :: list) ↔ ∃ rest, text = char :: rest ∧ rest ∈ language list := by
  rw [language_cons, Language.mem_mul]
  constructor
  · rintro ⟨_, rfl, rest, matched, rfl⟩
    exact ⟨rest, rfl, matched⟩
  · rintro ⟨rest, rfl, matched⟩
    exact ⟨[char], rfl, rest, matched, rfl⟩

theorem getLast?_tokens_iff :
    (tokens chars).getLast? = some .subtree ↔ ['/', '*', '*'] <:+ chars := by
  rw [List.getLast?_eq_some_iff]
  constructor
  · rintro ⟨before, same⟩
    rw [eq_of_tokens_eq_concat same]
    apply List.suffix_append
  · intro ending
    exact subtree_mem_tokens_iff.mp (subtree_mem_tokens ending)

/-- Between two texts no run of asterisks is cut and no subtree: one that ends the first text ends the
whole, and what follows a final slash is not just two asterisks. -/
structure Parted (front more : List Char) : Prop where
  run : front.getLast? = some '*' → more.head? ≠ some '*'
  subtree : ['/', '*', '*'] <:+ front → more = []
  slash : front.getLast? = some '/' → more ≠ ['*', '*']

theorem Parted.rest (first : List Char) (parted : Parted (first ++ front) more) : Parted front more where
  run ends := parted.run (by rw [List.getLast?_append, ends, Option.some_or])
  subtree ending := parted.subtree (ending.trans (List.suffix_append _ _))
  slash ends := parted.slash (by rw [List.getLast?_append, ends, Option.some_or])

theorem tokens_append (parted : Parted front more) :
    tokens (front ++ more) = tokens front ++ tokens more := by
  fun_induction tokens front with
  | case1 => rfl
  | case2 =>
    rw [parted.subtree List.suffix_rfl, List.append_nil]
    rfl
  | case3 rest ih =>
    simp only [List.cons_append]
    rw [tokens.eq_3, ih (parted.rest ['*', '*'])]
  | case4 rest single ih =>
    have stillSingle : ∀ further, rest ++ more ≠ '*' :: further := by
      intro further same
      cases rest with
      | nil => exact parted.run rfl (congrArg List.head? same)
      | cons next rest => exact single rest (by rw [(List.cons.inj same).1])
    rw [List.cons_append, tokens.eq_4 _ stillSingle, ih (parted.rest ['*']),
      List.cons_append]
  | case5 char rest unabsorbed unpaired plain ih =>
    have unabsorbedToo : char = '/' → rest ++ more ≠ ['*', '*'] := by
      rintro rfl same
      rcases List.append_eq_cons_iff.mp same with ⟨rfl, same⟩ | ⟨inner, rfl, one⟩
      · exact parted.slash rfl same
      · rcases List.append_eq_cons_iff.mp one.symm with ⟨rfl, same⟩ | ⟨none, rfl, empty⟩
        · exact parted.run rfl (congrArg List.head? (List.cons.inj same).2)
        · exact unabsorbed rfl (by rw [(List.append_eq_nil_iff.mp empty.symm).1])
    rw [List.cons_append, tokens.eq_5 _ _ unabsorbedToo (fun _ same _ => plain same) plain,
      ih (parted.rest [char]), List.cons_append]

/-- A slash is read apart from what comes before it, for no token but the last begins or ends with
one. -/
theorem tokens_append_slash (unclosed : ¬ ['/', '*', '*'] <:+ chars) (more : List Char) :
    tokens (chars ++ '/' :: more) = tokens chars ++ tokens ('/' :: more) :=
  tokens_append ⟨by simp, fun ending => absurd ending unclosed, by simp⟩

theorem mem_language_below_iff (unclosed : ¬ ['/', '*', '*'] <:+ chars) :
    text ∈ language (tokens (chars ++ ['/', '*', '*'])) ↔
      ∃ front back, text = front ++ back ∧ front ∈ language (tokens chars) ∧
        (back = [] ∨ ∃ rest, back = '/' :: rest) := by
  have read : tokens ['/', '*', '*'] = [.subtree] := rfl
  rw [tokens_append_slash unclosed, read, language_append, language_single, Language.mem_mul]
  constructor
  · rintro ⟨front, matched, back, below, rfl⟩
    exact ⟨front, back, rfl, matched, below⟩
  · rintro ⟨front, back, rfl, matched, below⟩
    exact ⟨front, matched, back, below, rfl⟩

theorem mem_language_children_iff (unclosed : ¬ ['/', '*', '*'] <:+ chars) :
    text ∈ language (tokens (chars ++ ['/', '*'])) ↔
      ∃ front back, text = front ++ '/' :: back ∧ front ∈ language (tokens chars) ∧
        IsSegments back := by
  have read : tokens ['/', '*'] = [.literal '/'] ++ [.segments] := rfl
  rw [tokens_append_slash unclosed, read, language_append, language_append, language_single,
    language_single, Language.mem_mul]
  constructor
  · rintro ⟨front, matched, _, ⟨_, rfl, back, segments, rfl⟩, rfl⟩
    exact ⟨front, back, rfl, matched, segments⟩
  · rintro ⟨front, back, rfl, matched, segments⟩
    exact ⟨front, matched, _, ⟨['/'], rfl, back, segments, rfl⟩, rfl⟩

theorem mem_language_plain_iff (plain : '*' ∉ chars) :
    text ∈ language (tokens chars) ↔ text = chars := by
  induction chars generalizing text with
  | nil => rfl
  | cons char rest ih =>
    have here : char ≠ '*' := fun same => plain (by simp [same])
    have later : '*' ∉ rest := fun mem => plain (List.mem_cons_of_mem _ mem)
    have read : tokens (char :: rest) = .literal char :: tokens rest := by
      refine tokens.eq_5 char rest (fun _ same => later ?_) (fun _ same _ => here same) here
      simp [same]
    rw [read, mem_language_literal_cons]
    simp only [ih later, exists_eq_right]

theorem toList_surjective : Function.Surjective String.toList :=
  fun chars => ⟨String.ofList chars, String.toList_ofList⟩

theorem accepts_below_iff (unclosed : ¬ ['/', '*', '*'] <:+ pattern.toList) :
    accepts (pattern ++ "/**") path = true ↔
      ∃ front back, path = front ++ back ∧ accepts pattern front = true ∧
        (back = "" ∨ ∃ rest, back = "/" ++ rest) := by
  have written : (pattern ++ "/**").toList = pattern.toList ++ ['/', '*', '*'] := by simp
  have slash : ∀ rest : String, '/' :: rest.toList = ("/" ++ rest).toList := by simp
  simp only [accepts, reads_start_iff, compile]
  rw [written, mem_language_below_iff unclosed]
  simp only [toList_surjective.exists, slash, ← String.toList_append, String.toList_inj,
    String.toList_eq_nil_iff]

theorem accepts_children_iff (unclosed : ¬ ['/', '*', '*'] <:+ pattern.toList) :
    accepts (pattern ++ "/*") path = true ↔
      ∃ front back, path = front ++ "/" ++ back ∧ accepts pattern front = true ∧
        IsSegments back.toList := by
  have written : (pattern ++ "/*").toList = pattern.toList ++ ['/', '*'] := by simp
  have slash : ∀ front back : String,
      front.toList ++ '/' :: back.toList = (front ++ "/" ++ back).toList := by simp
  simp only [accepts, reads_start_iff, compile]
  rw [written, mem_language_children_iff unclosed]
  simp only [toList_surjective.exists, slash, String.toList_inj]

theorem accepts_plain_iff (plain : '*' ∉ pattern.toList) :
    accepts pattern path = true ↔ path = pattern := by
  rw [accepts, reads_start_iff, compile, mem_language_plain_iff plain, String.toList_inj]

/-- What a subtree covers. Behind a pattern that does not end in one itself, a slash with two asterisks
matches just the paths that the pattern matches with nothing behind or with a slash and anything; a
slash with one asterisk asks for path segments behind the slash. So the first covers all that the
pattern and the second match and everything below it, and if the pattern has no wildcards, just its own
path and what is below that. -/
theorem subtree_covers (pattern : String) :
    ((compile pattern).getLast? = some .subtree ↔ ['/', '*', '*'] <:+ pattern.toList) ∧
    ((compile pattern).getLast? ≠ some .subtree →
      (∀ path, accepts (pattern ++ "/**") path = true ↔
        ∃ front back, path = front ++ back ∧ accepts pattern front = true ∧
          (back = "" ∨ ∃ rest, back = "/" ++ rest)) ∧
      (∀ path, accepts (pattern ++ "/*") path = true ↔
        ∃ front back, path = front ++ "/" ++ back ∧ accepts pattern front = true ∧
          IsSegments back.toList) ∧
      (∀ path, accepts pattern path = true ∨ accepts (pattern ++ "/*") path = true →
        accepts (pattern ++ "/**") path = true ∧
          ∀ below, accepts (pattern ++ "/**") (path ++ "/" ++ below) = true) ∧
      ('*' ∉ pattern.toList → ∀ path, accepts (pattern ++ "/**") path = true ↔
        path = pattern ∨ ∃ rest, path = pattern ++ "/" ++ rest)) := by
  refine ⟨getLast?_tokens_iff, fun unended => ?_⟩
  have unclosed : ¬ ['/', '*', '*'] <:+ pattern.toList := mt getLast?_tokens_iff.mpr unended
  refine ⟨fun path => accepts_below_iff unclosed, fun path => accepts_children_iff unclosed, ?_, ?_⟩
  · intro path matched
    -- Either way the path is one of the pattern's own with nothing or a slash behind it.
    obtain ⟨front, back, rfl, own, below⟩ : ∃ front back, path = front ++ back ∧
        accepts pattern front = true ∧ (back = "" ∨ ∃ rest, back = "/" ++ rest) := by
      rcases matched with own | child
      · exact ⟨path, "", by simp, own, .inl rfl⟩
      · obtain ⟨front, back, rfl, own, -⟩ := (accepts_children_iff unclosed).mp child
        exact ⟨front, "/" ++ back, by rw [String.append_assoc], own, .inr ⟨back, rfl⟩⟩
    refine ⟨(accepts_below_iff unclosed).mpr ⟨front, back, rfl, own, below⟩, fun further => ?_⟩
    refine (accepts_below_iff unclosed).mpr
      ⟨front, back ++ "/" ++ further, by simp [String.append_assoc], own, .inr ?_⟩
    rcases below with rfl | ⟨rest, rfl⟩
    · exact ⟨further, by simp⟩
    · exact ⟨rest ++ "/" ++ further, by simp [String.append_assoc]⟩
  · intro plain path
    rw [accepts_below_iff unclosed]
    constructor
    · rintro ⟨front, back, rfl, own, below⟩
      rw [accepts_plain_iff plain] at own
      subst own
      rcases below with rfl | ⟨rest, rfl⟩
      · exact .inl (by simp)
      · exact .inr ⟨rest, by rw [String.append_assoc]⟩
    · rintro (rfl | ⟨rest, rfl⟩)
      · exact ⟨path, "", by simp, (accepts_plain_iff plain).mpr rfl, .inl rfl⟩
      · exact ⟨pattern, "/" ++ rest, by rw [String.append_assoc], (accepts_plain_iff plain).mpr rfl,
          .inr ⟨rest, rfl⟩⟩

theorem user_pages_covered :
    ((compile "/u/*").getLast? ≠ some .subtree ∧ accepts "/u/*" "/u/7" = true ∧
      accepts "/u/*/**" "/u/7" = true ∧ accepts "/u/*/**" "/u/7/posts/3" = true) ∧
    ((compile "/admin").getLast? ≠ some .subtree ∧ '*' ∉ "/admin".toList ∧
      accepts "/admin/**" "/admin" = true ∧ ¬ accepts "/admin/**" "/administrator" = true) := by
  have users : (compile "/u/*").getLast? ≠ some .subtree := by decide
  have admin : (compile "/admin").getLast? ≠ some .subtree := by decide
  have plain : '*' ∉ "/admin".toList := by decide
  have user : accepts "/u/*" "/u/7" = true := by cbv
  obtain ⟨-, -, covers, -⟩ := (subtree_covers "/u/*").2 users
  obtain ⟨-, -, -, only⟩ := (subtree_covers "/admin").2 admin
  have below := covers "/u/7" (.inl user)
  refine ⟨⟨users, user, below.1, below.2 "posts/3"⟩, admin, plain, ?_, ?_⟩
  · exact (only plain "/admin").mpr (.inl rfl)
  · intro covered
    rcases (only plain "/administrator").mp covered with same | ⟨rest, same⟩
    · exact absurd same (by decide)
    · have sixth := congrArg (fun s : String => s.toList[6]?) same
      simp at sixth

end Gatekeeper.Pattern
