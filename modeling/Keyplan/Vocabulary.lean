import Keyplan.Meaning

/-!
# Vocabulary of words

Keycodes have several spellings. A word is brought to its usual spelling by two tables, one after
the other; a third one lists the symbols that a key sends with shift.
-/

namespace Keyplan.Vocabulary

/-- The usual keycode of other spellings. -/
def aliases : List (String × String) :=
  [("_______", "KC_TRNS"), ("XXXXXXX", "KC_NO"), ("KC_TRANSPARENT", "KC_TRNS"),
    ("KC_LCTRL", "KC_LCTL"), ("KC_RCTRL", "KC_RCTL"), ("KC_LSHIFT", "KC_LSFT"),
    ("KC_RSHIFT", "KC_RSFT"), ("KC_LOPT", "KC_LALT"), ("KC_ROPT", "KC_RALT"),
    ("KC_ALGR", "KC_RALT"), ("KC_LCMD", "KC_LGUI"), ("KC_LWIN", "KC_LGUI"),
    ("KC_RCMD", "KC_RGUI"), ("KC_RWIN", "KC_RGUI"), ("KC_ESCAPE", "KC_ESC"),
    ("KC_ENTER", "KC_ENT"), ("KC_BSPACE", "KC_BSPC"), ("KC_BACKSPACE", "KC_BSPC"),
    ("KC_SPACE", "KC_SPC"), ("KC_DELETE", "KC_DEL"), ("KC_INSERT", "KC_INS"),
    ("KC_PGDOWN", "KC_PGDN"), ("KC_CAPSLOCK", "KC_CAPS"), ("KC_CAPS_LOCK", "KC_CAPS"),
    ("KC_MINUS", "KC_MINS"), ("KC_EQUAL", "KC_EQL"), ("KC_LBRACKET", "KC_LBRC"),
    ("KC_LEFT_BRACKET", "KC_LBRC"), ("KC_RBRACKET", "KC_RBRC"), ("KC_RIGHT_BRACKET", "KC_RBRC"),
    ("KC_BSLASH", "KC_BSLS"), ("KC_BACKSLASH", "KC_BSLS"), ("KC_SCOLON", "KC_SCLN"),
    ("KC_SEMICOLON", "KC_SCLN"), ("KC_QUOTE", "KC_QUOT"), ("KC_GRAVE", "KC_GRV"),
    ("KC_COMMA", "KC_COMM"), ("KC_SLASH", "KC_SLSH")]

/-- The usual name of symbols spelled out. -/
def symbolNames : List (String × String) :=
  [("KC_TILDE", "KC_TILD"), ("KC_EXCLAIM", "KC_EXLM"), ("KC_DOLLAR", "KC_DLR"),
    ("KC_PERCENT", "KC_PERC"), ("KC_CIRCUMFLEX", "KC_CIRC"), ("KC_AMPERSAND", "KC_AMPR"),
    ("KC_ASTERISK", "KC_ASTR"), ("KC_LEFT_PAREN", "KC_LPRN"), ("KC_RIGHT_PAREN", "KC_RPRN"),
    ("KC_UNDERSCORE", "KC_UNDS"), ("KC_LEFT_CURLY_BRACE", "KC_LCBR"),
    ("KC_RIGHT_CURLY_BRACE", "KC_RCBR"), ("KC_COLON", "KC_COLN"), ("KC_DOUBLE_QUOTE", "KC_DQUO"),
    ("KC_DQT", "KC_DQUO"), ("KC_LEFT_ANGLE_BRACKET", "KC_LABK"), ("KC_LT", "KC_LABK"),
    ("KC_RIGHT_ANGLE_BRACKET", "KC_RABK"), ("KC_GT", "KC_RABK"), ("KC_QUESTION", "KC_QUES")]

/-- The key that sends a symbol with shift. -/
def shiftedSymbols : List (String × String) :=
  [("KC_TILD", "KC_GRV"), ("KC_EXLM", "KC_1"), ("KC_AT", "KC_2"), ("KC_HASH", "KC_3"),
    ("KC_DLR", "KC_4"), ("KC_PERC", "KC_5"), ("KC_CIRC", "KC_6"), ("KC_AMPR", "KC_7"),
    ("KC_ASTR", "KC_8"), ("KC_LPRN", "KC_9"), ("KC_RPRN", "KC_0"), ("KC_UNDS", "KC_MINS"),
    ("KC_PLUS", "KC_EQL"), ("KC_LCBR", "KC_LBRC"), ("KC_RCBR", "KC_RBRC"), ("KC_PIPE", "KC_BSLS"),
    ("KC_COLN", "KC_SCLN"), ("KC_DQUO", "KC_QUOT"), ("KC_LABK", "KC_COMM"), ("KC_RABK", "KC_DOT"),
    ("KC_QUES", "KC_SLSH")]

/-- What a table has for a word. -/
def find? (table : List (String × String)) (word : String) : Option String :=
  (table.find? fun row => row.1 == word).map Prod.snd

/-- The usual spelling of a word. -/
def canonical (word : String) : String :=
  let word := (find? aliases word).getD word
  (find? symbolNames word).getD word

/-- The meaning of a word. A word that no table has stands for itself. -/
def meaning (word : String) : Meaning :=
  let word := canonical word
  match find? shiftedSymbols word with
  | some base => Meaning.modify .leftShift (.keycode base)
  | none => .keycode word

end Keyplan.Vocabulary
