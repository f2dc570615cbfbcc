-- Colons in the text of a statement. A colon that starts an operand, as in
-- `id = :id`, names a bind variable and stays. A lone colon of any other use
-- is doubled, so that no reader takes it for a bind variable. A text without
-- bind variables stays as it is.
import NamedSql.Text.Basic

namespace NamedSql.Colons

/-! ## Escaping -/

/-- What is written for the rest of a text, and whether a bind variable is met in it. If
`due` is set, nothing but spaces stands between an equals sign and the rest. The first `skip`
characters are colons of a run that has been written already. -/
def rewriteFrom (due : Bool) : Nat → Text → Text × Bool
  | _, [] => ([], false)
  | skip + 1, _ :: cs => rewriteFrom due skip cs
  | 0, c :: cs =>
    if due && c == ':' then
      (':' :: (rewriteFrom false 0 cs).1, true)
    else if c == ':' then
      -- A run of colons is written at one go, and a run of one becomes a run of two.
      let more := (cs.takeWhile (· == ':')).length
      let rest := rewriteFrom false more cs
      (List.replicate (if more = 0 then 2 else more + 1) ':' ++ rest.1, rest.2)
    else
      let rest := rewriteFrom (due && c == ' ' || c == '=') 0 cs
      (c :: rest.1, rest.2)

/-- The escaped text, if the text has a bind variable. A text without a colon or without an
equals sign has none. -/
def escaped? (t : Text) : Option Text :=
  if !t.contains ':' || !t.contains '=' then none
  else
    let all := rewriteFrom false 0 t
    if all.2 then some all.1 else none

/-- The text as it is handed to a reader that knows bind variables. -/
def escape (t : Text) : Text := (escaped? t).getD t

/-! ## Colons by what stands before them -/

/-- What stands just before a character. -/
inductive Before where
  /-- An equals sign, and spaces at most: an operand is due. -/
  | equals
  /-- A colon that names no bind variable. -/
  | colon
  /-- Anything else. -/
  | other
  deriving DecidableEq, Repr

namespace Before

/-- What stands before the character that follows `c`. -/
def next (b : Before) (c : Char) : Before :=
  if c = ':' then (if b = .equals then .other else .colon)
  else if c = '=' then .equals
  else if c = ' ' ∧ b = .equals then .equals
  else .other

end Before

/-- The text has a bind variable. -/
def bindsFrom (b : Before) : Text → Bool
  | [] => false
  | c :: cs => (c == ':' && b == .equals) || bindsFrom (b.next c) cs

/-- A colon that stands alone becomes two, unless it names a bind variable.
Every other character is kept. -/
def doubledFrom (b : Before) : Text → Text
  | [] => []
  | c :: cs =>
    if c = ':' ∧ b = .other ∧ cs.head? ≠ some ':' then ':' :: ':' :: doubledFrom (b.next c) cs
    else c :: doubledFrom (b.next c) cs

/-- The text has a bind variable. -/
def binds (t : Text) : Bool := bindsFrom .other t

/-! ## Colons by their places -/

/-- The colon at place `i` names a bind variable: before it stand an equals
sign and then spaces at most. -/
def isBind (t : Text) (i : Nat) : Bool :=
  t[i]? == some ':' && ((t.take i).reverse.dropWhile (· == ' ')).head? == some '='

/-- The colon at place `i` names no bind variable. -/
def isLiteral (t : Text) (i : Nat) : Bool := t[i]? == some ':' && !isBind t i

/-- The colon at place `i` names no bind variable, and no neighbour of it is
another such colon. -/
def isLone (t : Text) (i : Nat) : Bool :=
  isLiteral t i && !(i != 0 && isLiteral t (i - 1)) && !isLiteral t (i + 1)

/-- The text with every lone colon written twice, place by place. -/
def doubledByPlace (t : Text) : Text :=
  (List.range t.length).flatMap fun i => if isLone t i then [':', ':'] else t[i]?.toList

/-! ## What the readers of a text may rely on -/

/-- A second escaping changes nothing, and a text that has no colon or no
equals sign is not changed at all. -/
def isStable (t : Text) : Bool :=
  escape (escape t) == escape t && ((t.contains ':' && t.contains '=') || escape t == t)

end NamedSql.Colons
