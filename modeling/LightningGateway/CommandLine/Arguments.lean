import LightningGateway.CommandLine.Usage
import LightningGateway.Text.Numeral
import LightningGateway.Text.Search
import LightningGateway.Wallet

/-!
# Arguments

Options and positional arguments of one command. The value of an option may be attached
with an equals sign or be the next argument; a value of its own is looked at only when the
next option or positional argument comes, or at the end. After `--` there are only
positional arguments.
-/

namespace LightningGateway

/-- What an option takes. -/
inductive OptionKind where
  | flag
  | text
  /-- A path, which is not empty. -/
  | path
  | word64
  | word32
  | addressType
  deriving Repr, BEq, DecidableEq

namespace OptionKind

/-- The kind of addresses with a name in any case. -/
def addressType? (value : String) : Option AddressType :=
  match Text.lowerAsciiText value with
  | "p2wkh" => some .p2wkh
  | "bech32" => some .p2wkh
  | "p2tr" => some .p2tr
  | "taproot" => some .p2tr
  | _ => none

def word64? (value : String) : Option UInt64 := Text.word64? value.toList

/-- A number of 32 bits, which may have a sign as long as it is not negative. -/
def word32? (value : String) : Option UInt32 :=
  (Text.signed64? value.toList).bind fun number =>
    if 0 ≤ number ∧ number < Bound.word32 then some (UInt32.ofNat number.toNat) else none

def check (value : String) : OptionKind → Except UsageError Unit
  | flag | text => .ok ()
  | path => if value = "" then .error .invalidValue else .ok ()
  | word64 => if (word64? value).isSome then .ok () else .error .valueValidation
  | word32 => if (word32? value).isSome then .ok () else .error .valueValidation
  | addressType => if (addressType? value).isSome then .ok () else .error .valueValidation

end OptionKind

/-- The options and positional arguments of a command. -/
structure ArgumentForm where
  /-- The options by name. -/
  options : List (String × OptionKind)
  /-- The name of the positional argument, if there is one. -/
  positional : Option String
  /-- Options that have to be given. -/
  required : List String
  /-- Whether the version can be asked for. -/
  hasVersion : Bool
  deriving Repr

/-- The arguments that were given so far. -/
structure Arguments where
  /-- The options and positional arguments with their values, by name. -/
  given : List (String × String)
  /-- The last argument, while its value was not looked at; an option may still lack its value. -/
  pending : Option (String × Option String)
  /-- Whether the next argument is the value of the last one. -/
  awaiting : Bool
  positionalTaken : Bool
  /-- Whether `--` was given. -/
  trailing : Bool
  deriving Repr

namespace Arguments

def nothing : Arguments := ⟨[], none, false, false, false⟩

def value? (arguments : Arguments) (name : String) : Option String :=
  arguments.given.lookup name

def has (arguments : Arguments) (name : String) : Bool := (arguments.value? name).isSome

def store (form : ArgumentForm) (name value : String) (arguments : Arguments) :
    Except UsageError Arguments :=
  if arguments.has name then .error .argumentConflict
  else
    (((form.options.lookup name).getD .text).check value).map fun () =>
      { arguments with given := arguments.given ++ [(name, value)] }

def resolve (form : ArgumentForm) (arguments : Arguments) : Except UsageError Arguments :=
  match arguments.pending with
  | none => .ok arguments
  | some (_, none) => .error .invalidValue
  | some (name, some value) => { arguments with pending := none }.store form name value

/-- Splits a long option into its name and the value that is attached. -/
def longOption? (argument : String) : Option (String × Option String) :=
  match argument.toList with
  | '-' :: '-' :: rest =>
      match Text.splitAtFirst ['='] rest with
      | some (name, value) => some (String.ofList name, some (String.ofList value))
      | none => some (String.ofList rest, none)
  | _ => none

def shortOption? (argument : String) : Option Char :=
  match argument.toList with
  | '-' :: letter :: _ => if letter == '-' then none else some letter
  | _ => none

/-- The error of an option that shows something instead of running a command. -/
def shows (form : ArgumentForm) (error : UsageError) (attached : Bool) (arguments : Arguments) :
    Except UsageError Arguments :=
  if attached then .error .tooManyValues
  else
    match arguments.resolve form with
    | .error first => .error first
    | .ok _ => .error error

def takeLong (form : ArgumentForm) (name : String) (attached : Option String)
    (arguments : Arguments) : Except UsageError Arguments :=
  if name = "help" then arguments.shows form .displayHelp attached.isSome
  else if name = "version" ∧ form.hasVersion then
    arguments.shows form .displayVersion attached.isSome
  else
    match form.options.lookup name, attached with
    | none, _ => .error .unknownArgument
    | some .flag, some _ => .error .tooManyValues
    | some .flag, none => do
        let arguments ← arguments.resolve form
        { arguments with awaiting := false }.store form name ""
    | some _, some value => do
        let arguments ← arguments.resolve form
        { arguments with awaiting := false }.store form name value
    | some _, none => do
        let arguments ← arguments.resolve form
        return { arguments with pending := some (name, none), awaiting := true }

/-- Takes short options, of which there are only those that show something. -/
def takeShort (form : ArgumentForm) (letter : Char) (arguments : Arguments) :
    Except UsageError Arguments :=
  if letter == 'h' then arguments.shows form .displayHelp false
  else if letter == 'V' && form.hasVersion then arguments.shows form .displayVersion false
  else .error .unknownArgument

def takePositional (form : ArgumentForm) (argument : String) (arguments : Arguments) :
    Except UsageError Arguments :=
  match form.positional, arguments.positionalTaken with
  | some name, false => do
      let arguments ← arguments.resolve form
      return { arguments with
        pending := some (name, some argument)
        awaiting := false
        positionalTaken := true }
  | _, _ => .error .unknownArgument

def takeValue (argument : String) (arguments : Arguments) : Arguments :=
  { arguments with
    pending := arguments.pending.map fun (name, _) => (name, some argument)
    awaiting := false }

def take (form : ArgumentForm) (argument : String) (arguments : Arguments) :
    Except UsageError Arguments :=
  if arguments.trailing then arguments.takePositional form argument
  else if argument = "--" then .ok { arguments with trailing := true }
  else
    match longOption? argument, shortOption? argument with
    | some (name, attached), _ => arguments.takeLong form name attached
    | none, some letter => arguments.takeShort form letter
    | none, none =>
        if arguments.awaiting then .ok (arguments.takeValue argument)
        else arguments.takePositional form argument

def takeAll (form : ArgumentForm) : List String → Arguments → Except UsageError Arguments
  | [], arguments => .ok arguments
  | argument :: rest, arguments =>
      match arguments.take form argument with
      | .error error => .error error
      | .ok arguments => takeAll form rest arguments

/-- The arguments of a command, none of which is missing. -/
def read (form : ArgumentForm) (arguments : List String) : Except UsageError Arguments := do
  let arguments ← takeAll form arguments nothing
  let arguments ← arguments.resolve form
  if (form.positional.toList ++ form.required).all arguments.has then return arguments
  else throw .missingRequiredArgument

end Arguments

end LightningGateway
