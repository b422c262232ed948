import ApiReference.Text.Quoted

/-! Why a file operation failed. -/

namespace ApiReference

inductive FileFault
  | notFound | denied | busy | alreadyExists | notDirectory | isDirectory | nameTooLong
  | nulInName
  | notText
  | other (message : String)
  deriving DecidableEq, Repr

def FileFault.message : FileFault → String
  | notFound => "No such file or directory (os error 2)"
  | denied => "Permission denied (os error 13)"
  | busy => "Device or resource busy (os error 16)"
  | alreadyExists => "File exists (os error 17)"
  | notDirectory => "Not a directory (os error 20)"
  | isDirectory => "Is a directory (os error 21)"
  | nameTooLong => "File name too long (os error 36)"
  | nulInName => "file name contained an unexpected NUL byte"
  | notText => "stream did not contain valid UTF-8"
  | other message => message

def FileFault.located (fault : FileFault) (path : String) : FileFault :=
  .other (fault.message ++ " at path " ++ Text.quoted path)

def FileFault.noFreeName (directory : String) : FileFault :=
  (other "too many temporary files exist").located directory

end ApiReference
