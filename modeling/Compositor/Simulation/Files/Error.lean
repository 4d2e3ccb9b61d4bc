import Compositor.Host.Error

set_option autoImplicit false

/-!
# Errors of files

## Main definitions

* `FileError` — why a simulated machine refuses something with a file or a directory.
* `FileError.report` — the error as the program gets it.
-/

namespace Compositor

/-- Why a simulated machine refuses to do something with a file or a directory. -/
inductive FileError where
  /-- There is no such file or directory. -/
  | notFound
  /-- A file stands where a directory is to be made. -/
  | alreadyExists
  /-- A part of the path before its end is no directory. -/
  | notADirectory
  /-- A directory stands where a file is to be read. -/
  | isADirectory
  /-- The path, or a part of it, is too long. -/
  | nameTooLong
  /-- The path has a NUL character. -/
  | nulInPath
  /-- The content is not text. -/
  | notText
  /-- A directory that is to be taken away has something in it. -/
  | notEmpty
  /-- A path leads through too many symbolic links. -/
  | tooManyLinks
deriving DecidableEq

namespace FileError

/-- The number by which the system knows an error. Errors that are found before the system is asked
have none. -/
def number? : FileError → Option Nat
  | notFound => some 2
  | alreadyExists => some 17
  | notADirectory => some 20
  | isADirectory => some 21
  | nameTooLong => some 36
  | notEmpty => some 39
  | tooManyLinks => some 40
  | nulInPath | notText => none

/-- The kind of an error. -/
def kind : FileError → SystemError.Kind
  | notFound => .notFound
  | alreadyExists => .other "AlreadyExists"
  | notADirectory => .other "NotADirectory"
  | isADirectory => .other "IsADirectory"
  | nameTooLong => .other "InvalidFilename"
  | nulInPath => .other "InvalidInput"
  | notText => .other "InvalidData"
  | notEmpty => .other "DirectoryNotEmpty"
  | tooManyLinks => .other "FilesystemLoop"

/-- What an error says. -/
def summary : FileError → String
  | notFound => "No such file or directory"
  | alreadyExists => "File exists"
  | notADirectory => "Not a directory"
  | isADirectory => "Is a directory"
  | nameTooLong => "File name too long"
  | nulInPath => "file name contained an unexpected NUL byte"
  | notText => "stream did not contain valid UTF-8"
  | notEmpty => "Directory not empty"
  | tooManyLinks => "Too many levels of symbolic links"

/-- The error as the program gets it. -/
def report (error : FileError) : SystemError :=
  ⟨error.number?, error.kind, error.summary⟩

end FileError

end Compositor
