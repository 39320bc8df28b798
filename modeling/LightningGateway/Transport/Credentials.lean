import LightningGateway.FileSystem
import LightningGateway.Transport.Error

/-!
# Credentials in files

The cookie file of a chain server, whose first line holds user and password.
-/

namespace LightningGateway

/-- A user with a password. -/
structure Login where
  user : String
  password : String
  deriving Repr, BEq, DecidableEq

namespace Login

/-- The first line of a file without its line end; an empty file has none. -/
def firstLine? (content : List UInt8) : Option (List UInt8) :=
  let line := content.takeWhile (· != 0x0A)
  if content.isEmpty then none
  else if line.length < content.length ∧ line.getLast? = some 0x0D then some line.dropLast
  else some line

def ofContent (content : List UInt8) : Except TransportError Login :=
  match firstLine? content with
  | none => .error (.other "Cookie file is empty")
  | some line =>
      match Text.utf8? line with
      | none => .error (.other ("Failed to read cookie file: " ++ FileFault.notText.message))
      | some text =>
          match Text.splitOnce text ":" with
          | some (user, password) => .ok ⟨user, password⟩
          | none => .error (.other "Invalid cookie file format: missing colon")

def ofCookieFile (files : FileSystem) (path : String) : Except TransportError Login :=
  match files.read path with
  | .ok content => ofContent content
  | .error .isDirectory =>
      .error (.other ("Failed to read cookie file: " ++ FileFault.isDirectory.message))
  | .error fault => .error (.permissionDenied ("Failed to read cookie file: " ++ fault.message))

end Login

end LightningGateway
