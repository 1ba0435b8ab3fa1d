/-!
# Failures of the host

What files, sockets and byte streams answer when they do not do what was asked.
-/

namespace DesktopGateway.Host

inductive FailureKind where
  | notFound
  | permissionDenied
  | connectionRefused
  | connectionReset
  | networkUnreachable
  | addressInUse
  | addressNotAvailable
  | brokenPipe
  | alreadyExists
  | notDirectory
  | isDirectory
  | directoryNotEmpty
  | linkLoop
  | invalidInput
  | invalidData
  | invalidFileName
  | unexpectedEnd
  | writeZero
  | other
  | uncategorized
  deriving DecidableEq, Repr

namespace FailureKind

def name : FailureKind → String
  | notFound => "NotFound"
  | permissionDenied => "PermissionDenied"
  | connectionRefused => "ConnectionRefused"
  | connectionReset => "ConnectionReset"
  | networkUnreachable => "NetworkUnreachable"
  | addressInUse => "AddrInUse"
  | addressNotAvailable => "AddrNotAvailable"
  | brokenPipe => "BrokenPipe"
  | alreadyExists => "AlreadyExists"
  | notDirectory => "NotADirectory"
  | isDirectory => "IsADirectory"
  | directoryNotEmpty => "DirectoryNotEmpty"
  | linkLoop => "FilesystemLoop"
  | invalidInput => "InvalidInput"
  | invalidData => "InvalidData"
  | invalidFileName => "InvalidFilename"
  | unexpectedEnd => "UnexpectedEof"
  | writeZero => "WriteZero"
  | other => "Other"
  | uncategorized => "Uncategorized"

/-- The text of a failure of which nothing but the class is known. -/
def text : FailureKind → String
  | notFound => "entity not found"
  | permissionDenied => "permission denied"
  | connectionRefused => "connection refused"
  | connectionReset => "connection reset"
  | networkUnreachable => "network unreachable"
  | addressInUse => "address in use"
  | addressNotAvailable => "address not available"
  | brokenPipe => "broken pipe"
  | alreadyExists => "entity already exists"
  | notDirectory => "not a directory"
  | isDirectory => "is a directory"
  | directoryNotEmpty => "directory not empty"
  | linkLoop => "filesystem loop or indirection limit (e.g. symlink loop)"
  | invalidInput => "invalid input parameter"
  | invalidData => "invalid data"
  | invalidFileName => "invalid filename"
  | unexpectedEnd => "unexpected end of file"
  | writeZero => "write zero"
  | other => "other error"
  | uncategorized => "uncategorized error"

def all : List FailureKind :=
  [notFound, permissionDenied, connectionRefused, connectionReset, networkUnreachable,
    addressInUse, addressNotAvailable, brokenPipe, alreadyExists, notDirectory, isDirectory,
    directoryNotEmpty, linkLoop, invalidInput, invalidData, invalidFileName, unexpectedEnd,
    writeZero, other, uncategorized]

def ofName? (wanted : String) : Option FailureKind :=
  all.find? fun kind => kind.name = wanted

end FailureKind

inductive Refusal where
  | notPermitted
  | noEntry
  | noDevice
  | accessDenied
  | alreadyThere
  | notDirectory
  | isDirectory
  | invalidArgument
  | nameTooLong
  | brokenPipe
  | notEmpty
  | tooManyLinks
  | addressInUse
  | addressNotAvailable
  | networkUnreachable
  | connectionRefused
  deriving DecidableEq, Repr

namespace Refusal

def number : Refusal → Nat
  | notPermitted => 1
  | noEntry => 2
  | noDevice => 6
  | accessDenied => 13
  | alreadyThere => 17
  | notDirectory => 20
  | isDirectory => 21
  | invalidArgument => 22
  | brokenPipe => 32
  | nameTooLong => 36
  | notEmpty => 39
  | tooManyLinks => 40
  | addressInUse => 98
  | addressNotAvailable => 99
  | networkUnreachable => 101
  | connectionRefused => 111

def words : Refusal → String
  | notPermitted => "Operation not permitted"
  | noEntry => "No such file or directory"
  | noDevice => "No such device or address"
  | accessDenied => "Permission denied"
  | alreadyThere => "File exists"
  | notDirectory => "Not a directory"
  | isDirectory => "Is a directory"
  | invalidArgument => "Invalid argument"
  | brokenPipe => "Broken pipe"
  | nameTooLong => "File name too long"
  | notEmpty => "Directory not empty"
  | tooManyLinks => "Too many levels of symbolic links"
  | addressInUse => "Address already in use"
  | addressNotAvailable => "Cannot assign requested address"
  | networkUnreachable => "Network is unreachable"
  | connectionRefused => "Connection refused"

def kind : Refusal → FailureKind
  | notPermitted => .permissionDenied
  | noEntry => .notFound
  | noDevice => .uncategorized
  | accessDenied => .permissionDenied
  | alreadyThere => .alreadyExists
  | notDirectory => .notDirectory
  | isDirectory => .isDirectory
  | invalidArgument => .invalidInput
  | brokenPipe => .brokenPipe
  | nameTooLong => .invalidFileName
  | notEmpty => .directoryNotEmpty
  | tooManyLinks => .linkLoop
  | addressInUse => .addressInUse
  | addressNotAvailable => .addressNotAvailable
  | networkUnreachable => .networkUnreachable
  | connectionRefused => .connectionRefused

end Refusal

inductive Failure where
  | refused (refusal : Refusal)
  | described (kind : FailureKind) (text : String)
  deriving DecidableEq, Repr

namespace Failure

def ofKind (kind : FailureKind) : Failure :=
  .described kind kind.text

def kind : Failure → FailureKind
  | refused refusal => refusal.kind
  | described kind _ => kind

def message : Failure → String
  | refused refusal => s!"{refusal.words} (os error {refusal.number})"
  | described _ text => text

/-- The other side has gone, which the class or the end of the text tells. -/
def isBrokenPipe (failure : Failure) : Bool :=
  failure.kind = .brokenPipe || "broken pipe".toList.isSuffixOf failure.message.toList

end Failure

end DesktopGateway.Host
