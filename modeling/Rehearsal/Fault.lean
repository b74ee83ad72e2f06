/-!
Faults that come from outside the library, or from data of a shape that a step cannot use: the
browser's and the network's own errors, unreadable files, ill-typed values. The library's own
errors are built on top of these.
-/

set_option autoImplicit false

namespace Rehearsal

inductive FaultKind where
  | browser
  | timeout
  | runtime
  | connect
  | readTimeout
  | protocol
  | decoding
  | tooManyRedirects
  | invalidUrl
  | wrongType
  | badValue
  | noMember
  | unsupported
  | missingKey
  | overflow
  | badBytes
  | unencodable
  | badText
  | badDomain
  | badDomainLetter
  | badDomainContext
  | badDomainDirection
  | badJson
  | badToml
  | noFile
  | isDirectory
  | fileExists
  | notDirectory
  | nameTooLong
  | badTable
  deriving DecidableEq

/-- The name that event logs and reports give to a kind of fault. -/
def FaultKind.name : FaultKind -> String
  | .browser => "Error"
  | .timeout => "TimeoutError"
  | .runtime => "RuntimeError"
  | .connect => "ConnectError"
  | .readTimeout => "ReadTimeout"
  | .protocol => "RemoteProtocolError"
  | .decoding => "DecodingError"
  | .tooManyRedirects => "TooManyRedirects"
  | .invalidUrl => "InvalidURL"
  | .wrongType => "TypeError"
  | .badValue => "ValueError"
  | .noMember => "AttributeError"
  | .unsupported => "AssertionError"
  | .missingKey => "KeyError"
  | .overflow => "OverflowError"
  | .badBytes => "UnicodeDecodeError"
  | .unencodable => "UnicodeEncodeError"
  | .badText => "UnicodeError"
  | .badDomain => "IDNAError"
  | .badDomainLetter => "InvalidCodepoint"
  | .badDomainContext => "InvalidCodepointContext"
  | .badDomainDirection => "IDNABidiError"
  | .badJson => "JSONDecodeError"
  | .badToml => "TOMLDecodeError"
  | .noFile => "FileNotFoundError"
  | .isDirectory => "IsADirectoryError"
  | .fileExists => "FileExistsError"
  | .notDirectory => "NotADirectoryError"
  | .nameTooLong => "OSError"
  | .badTable => "Error"

/-- Values that were of the right type and still could not be used. -/
def FaultKind.isBadValue : FaultKind -> Bool
  | .badValue | .badBytes | .unencodable | .badText | .badDomain | .badDomainLetter
  | .badDomainContext | .badDomainDirection | .badJson | .badToml => true
  | _ => false

/-- Faults of the network, which a request reports as its own failure. -/
def FaultKind.isNetwork : FaultKind -> Bool
  | .connect | .readTimeout | .protocol | .decoding | .tooManyRedirects => true
  | _ => false

structure Fault where
  kind : FaultKind
  message : String
  deriving DecidableEq

namespace Fault

def sizeLimit : String := "Exceeds the limit (4300 digits) for integer string conversion"

def limitHint : String := "use sys.set_int_max_str_digits() to increase the limit"

/-- An integer was to be read from too many digits. -/
def oversizedNumeral (digits : Nat) : Fault :=
  ⟨.badValue, s!"{sizeLimit}: value has {digits} digits; {limitHint}"⟩

/-- An integer was to be written with too many digits. -/
def oversizedInt : Fault := ⟨.badValue, s!"{sizeLimit}; {limitHint}"⟩

end Fault

end Rehearsal
