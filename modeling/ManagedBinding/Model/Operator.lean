/-!
The operators that a class may overload.
-/

namespace ManagedBinding

/-- An overloadable operator, by the names of its characters. -/
inductive Operator
  | plus
  | minus
  | star
  | slash
  | percent
  | caret
  | amp
  | pipe
  | tilde
  | exclaim
  | equal
  | less
  | greater
  | plusEqual
  | minusEqual
  | starEqual
  | slashEqual
  | equalEqual
  | exclaimEqual
  | lessEqual
  | greaterEqual
  | ampAmp
  | pipePipe
  | lessLess
  | greaterGreater
  | plusPlus
  | minusMinus
  | arrow
  | call
  | subscript
  deriving DecidableEq, Repr

/-- The operator as written behind the keyword `operator`. -/
def Operator.token : Operator → String
  | .plus => "+"
  | .minus => "-"
  | .star => "*"
  | .slash => "/"
  | .percent => "%"
  | .caret => "^"
  | .amp => "&"
  | .pipe => "|"
  | .tilde => "~"
  | .exclaim => "!"
  | .equal => "="
  | .less => "<"
  | .greater => ">"
  | .plusEqual => "+="
  | .minusEqual => "-="
  | .starEqual => "*="
  | .slashEqual => "/="
  | .equalEqual => "=="
  | .exclaimEqual => "!="
  | .lessEqual => "<="
  | .greaterEqual => ">="
  | .ampAmp => "&&"
  | .pipePipe => "||"
  | .lessLess => "<<"
  | .greaterGreater => ">>"
  | .plusPlus => "++"
  | .minusMinus => "--"
  | .arrow => "->"
  | .call => "()"
  | .subscript => "[]"

end ManagedBinding
