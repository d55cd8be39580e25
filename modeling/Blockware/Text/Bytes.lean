/-!
# Bytes of texts

How many bytes a text takes where it is stored.
-/

namespace Blockware.Text

/-- How many bytes some characters have in UTF-8. -/
def utf8Length : List Char → Nat
  | [] => 0
  | c :: rest => c.utf8Size + utf8Length rest

end Blockware.Text
