import PltKeeper.ToolError
import PltKeeper.Text.Surrogate

/-!
Everything that can end an operation early. A run turns the first two kinds into a failed outcome;
the others escape it and end the command.
-/

namespace PltKeeper

/-- What ends an operation early. -/
inductive Failure
  /-- An error that the tool reports. -/
  | tool (e : ToolError)
  /-- An error of the operating system. -/
  | system (e : SystemError)
  /-- A value that cannot be used, by its text. -/
  | badValue (text : String)
  /-- A value of the wrong type. -/
  | badType (text : String)
  /-- A mapping lacks a key. -/
  | missingKey (key : String)
  /-- A value lacks a property. -/
  | missingProperty (text : String)
  /-- The home directory of a user is not known. -/
  | unknownHome
  /-- A document is nested too deeply; whether an object or a list was one too many. -/
  | tooDeep (isObject : Bool)
  /-- A text file is not UTF-8. -/
  | notUtf8 (fault : Text.Utf8.Fault)
  /-- A text cannot be encoded; what is said besides. -/
  | notEncodable (fault : Text.EncodeFault) (advice : String)
  /-- A number is larger than the system takes. -/
  | tooLarge (text : String)
  /-- A closing tag closes nothing. -/
  | badMarkup (text : String)
  /-- The user stopped the program. -/
  | interrupted
  deriving DecidableEq, Repr

namespace Failure

/-- The kind of a failure, as crash messages name it. -/
def kind : Failure → String
  | tool e => e.kind
  | system e => e.kind
  | badValue _ => "ValueError"
  | badType _ => "TypeError"
  | missingKey _ => "KeyError"
  | missingProperty _ => "AttributeError"
  | unknownHome => "RuntimeError"
  | tooDeep _ => "RecursionError"
  | notUtf8 _ => "UnicodeDecodeError"
  | notEncodable .. => "UnicodeEncodeError"
  | tooLarge _ => "OverflowError"
  | badMarkup _ => "MarkupError"
  | interrupted => "KeyboardInterrupt"

/-- What bytes are not UTF-8, where, and why. -/
def describeFault (fault : Text.Utf8.Fault) : String :=
  let what := match fault.bytes with
    | [b] =>
      "byte 0x" ++ String.ofList (Text.hexPad 2 b.toNat) ++ s!" in position {fault.start}"
    | bytes => s!"bytes in position {fault.start}-{fault.start + bytes.length - 1}"
  "'utf-8' codec can't decode " ++ what ++ ": " ++ fault.reason.text

/-- What text cannot be encoded, and where. -/
def describeEncodeFault (fault : Text.EncodeFault) : String :=
  let what := match fault.units with
    | [unit] =>
      "character '\\u" ++ String.ofList (Text.hexPad 4 unit) ++ s!"' in position {fault.start}"
    | units => s!"characters in position {fault.start}-{fault.start + units.length - 1}"
  "'utf-8' codec can't encode " ++ what ++ ": surrogates not allowed"

/-- The failure in words. -/
def message : Failure → String
  | tool e => e.message
  | system e => e.text
  | badValue text | badType text | missingProperty text | badMarkup text | tooLarge text => text
  | missingKey key => Text.quoted key
  | unknownHome => "Could not determine home directory."
  | tooDeep isObject =>
    "maximum recursion depth exceeded while decoding a JSON " ++
      (if isObject then "object" else "array") ++ " from a unicode string"
  | notUtf8 fault => describeFault fault
  | notEncodable fault advice => describeEncodeFault fault ++ advice
  | interrupted => ""

/-- The failure of a name that holds a character that no name may hold. -/
def unusable (name : String) : Failure :=
  match Text.fault? (fun c => Text.isHalf c && !Text.isStrayByte c) name with
  | some fault => notEncodable fault ""
  | none => badValue "embedded null byte"

/-- A name that cannot be used is a failure of its own. -/
theorem unusable_cases (name : String) :
    (∃ text, unusable name = badValue text) ∨ ∃ fault, unusable name = notEncodable fault "" := by
  unfold unusable
  split
  · exact .inr ⟨_, rfl⟩
  · exact .inl ⟨_, rfl⟩

end Failure

end PltKeeper
