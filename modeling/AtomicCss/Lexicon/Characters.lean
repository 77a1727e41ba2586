import AtomicCss.Text.Basic

/-!
Contract: the built-in names of characters that cannot stand in a class name.

Owns: the table.

Does not own: the markers that announce such a name.
-/

namespace AtomicCss.Lexicon.Characters

/-- Names of characters, each with the text that it stands for. -/
def all : List (String × String) :=
  [("star", "*"), ("comma", ","), ("dot", "."), ("dash", "-"), ("space", " "),
   ("slash", "/"), ("pipe", "|"), ("plus", "+"), ("minus", "-"), ("equal", "="),
   ("question", "?"), ("exclamation", "!"), ("colon", ":"), ("semicolon", ";"),
   ("percent", "%"), ("amp", "&"), ("at", "@"), ("hash", "#"), ("dollar", "$"),
   ("caret", "^"), ("tilde", "~"), ("grave", "\x60"), ("lpar", "("), ("rpar", ")"),
   ("lbrace", "\x7b"), ("rbrace", "\x7d"), ("lbrack", "["), ("rbrack", "]"),
   ("lt", "<"), ("gt", ">")]

/-- The built-in names of characters as texts. -/
def texts : List (Text × Text) :=
  all.map fun entry => (entry.1.toList, entry.2.toList)

end AtomicCss.Lexicon.Characters
