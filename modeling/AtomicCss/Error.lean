import AtomicCss.Grammar

/-!
Contract: why reading a class name, a source or the settings of a build can fail.

Owns: the causes and the one text of each.

Does not own: how a command line shows a text or leaves with a status.
-/

namespace AtomicCss

/-- Why a text is no class name of the grammar. -/
inductive ClassFault where
  /-- The text does not start with the scheme. -/
  | noScheme
  /-- Nothing follows the scheme. -/
  | noParts
deriving DecidableEq, Repr

/-- The text of a fault in a class name. -/
def ClassFault.message : ClassFault → Text
  | .noScheme => "class does not start with '".toList ++ Grammar.scheme ++ "'".toList
  | .noParts => "no parts after the scheme marker".toList

/-- Why the operating system refused a file. -/
inductive FileFault where
  | notFound
  | isDirectory
  | notDirectory
  | alreadyExists
  | nameTooLong
  | nulInName
  | notText
  /-- Any other reason, with the text that was given for it. -/
  | other (reason : Text)
deriving DecidableEq, Repr

/-- The text of a refusal. -/
def FileFault.message : FileFault → Text
  | .notFound => "No such file or directory (os error 2)".toList
  | .isDirectory => "Is a directory (os error 21)".toList
  | .notDirectory => "Not a directory (os error 20)".toList
  | .alreadyExists => "File exists (os error 17)".toList
  | .nameTooLong => "File name too long (os error 36)".toList
  | .nulInName => "file name contained an unexpected NUL byte".toList
  | .notText => "stream did not contain valid UTF-8".toList
  | .other reason => reason

/-- Why an operation failed. -/
inductive Failure where
  | file (fault : FileFault)
  | parse (className : Text) (fault : ClassFault)
  | settings (reason : Text)
  | fileNotFound (path : Text)
  | invalidFormat (reason : Text)
deriving DecidableEq, Repr

/-- The text of a failure. -/
def Failure.message : Failure → Text
  | .file fault => "IO error: ".toList ++ fault.message
  | .parse className fault =>
      "Parse error in class '".toList ++ className ++ "': ".toList ++ fault.message
  | .settings reason => "Configuration error: ".toList ++ reason
  | .fileNotFound path => "File not found: ".toList ++ path
  | .invalidFormat reason => "Invalid format: ".toList ++ reason

end AtomicCss
