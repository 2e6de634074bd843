/-!
The characters that the bundled parsers know, each alphabet in ascending order.
-/
namespace Sluice.Text

def blanks : List Char := ['\t', '\n', '\x0c', '\r', ' ']

def digits : List Char := ['0', '1', '2', '3', '4', '5', '6', '7', '8', '9']

def signs : List Char := ['+', '-']

/-- The texts of one character out of an alphabet. -/
def letters (alphabet : List Char) : List String :=
  alphabet.map String.singleton

end Sluice.Text
