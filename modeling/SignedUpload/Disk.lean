import SignedUpload.Path

/-! What a path shows of the file behind it. -/
namespace SignedUpload

inductive DiskFault where
  | notFound
  | notDirectory
  | isDirectory
  | nameTooLong
  | tooManyLinks
  | nulInPath
  | other (text : String)
  deriving DecidableEq, Repr

def DiskFault.message : DiskFault → String
  | .notFound => "No such file or directory (os error 2)"
  | .notDirectory => "Not a directory (os error 20)"
  | .isDirectory => "Is a directory (os error 21)"
  | .nameTooLong => "File name too long (os error 36)"
  | .tooManyLinks => "Too many levels of symbolic links (os error 40)"
  | .nulInPath => "file name contained an unexpected NUL byte"
  | .other text => text

structure RegularFile where
  canonical : Path
  size : Nat
  head : Bytes
  deriving DecidableEq, Repr

inductive Sighting where
  | unreachable (fault : DiskFault)
  | notRegular
  | unopenable (fault : DiskFault)
  | unreadable (fault : DiskFault)
  | regular (file : RegularFile)
  deriving DecidableEq, Repr

abbrev Disk := Path → Sighting

end SignedUpload
