/-! Route patterns. A pattern is read as a list of tokens, and every list of tokens has one written
form; reading loses nothing. -/
namespace Gatekeeper.Pattern

inductive Token where
  | literal (char : Char)
  /-- `*`: one or more path segments. -/
  | segments
  /-- `**`: any characters. -/
  | anything
  /-- A final slash with `**`: nothing, or a slash and any characters. -/
  | subtree
deriving DecidableEq, Repr

/-- Asterisks pair up from the left; a pair at the very end takes the slash before it along. -/
def tokens : List Char → List Token
  | [] => []
  | ['/', '*', '*'] => [.subtree]
  | '*' :: '*' :: rest => .anything :: tokens rest
  | '*' :: rest => .segments :: tokens rest
  | char :: rest => .literal char :: tokens rest

def compile (pattern : String) : List Token :=
  tokens pattern.toList

def Token.render : Token → List Char
  | .literal char => [char]
  | .segments => ['*']
  | .anything => ['*', '*']
  | .subtree => ['/', '*', '*']

def render (list : List Token) : List Char :=
  list.flatMap Token.render

theorem render_cons (token : Token) (rest : List Token) :
    render (token :: rest) = token.render ++ render rest := rfl

theorem render_tokens (chars : List Char) : render (tokens chars) = chars := by
  fun_induction tokens chars with
  | case1 => rfl
  | case2 => rfl
  | case3 rest ih => rw [render_cons, ih]; rfl
  | case4 rest _ ih => rw [render_cons, ih]; rfl
  | case5 char rest _ _ _ ih => rw [render_cons, ih]; rfl

end Gatekeeper.Pattern
