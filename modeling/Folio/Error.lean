import Folio.Location

/-!
# Compile errors

Why a document does not compile.  Each error is a cause; its wording is in one function,
`CompileError.message`.  Two kinds of error have a place in the body, and `CompileError.relocate`
moves that place into the source file.
-/

namespace Folio

/-- Why a value is not the record that is asked for. -/
inductive RecordFault where
  | missing (field : String)
  | wrongType (found expected : String)
  /-- The values of a record, given in order, are too few. -/
  | tooShort (length : Nat) (expected : String)
  /-- The values of a record, given in order, are too many. -/
  | tooLong (length : Nat)
  | notDate (text : String)
  | stated (reason : String)
  deriving DecidableEq, Repr

/-- The wording of a fault in a record. -/
def RecordFault.message : RecordFault → String
  | .missing field => "missing field `" ++ field ++ "`"
  | .wrongType found expected => "invalid type: " ++ found ++ ", expected " ++ expected
  | .tooShort length expected => "invalid length " ++ toString length ++ ", expected " ++ expected
  | .tooLong length =>
    "invalid length " ++ toString length ++ ", expected fewer elements in array"
  | .notDate text => "unparseable date '" ++ text ++ "'"
  | .stated reason => reason

/-- Why the frontmatter of a document cannot be read. -/
inductive FrontmatterError where
  /-- The block is opened and not closed. -/
  | unterminated
  /-- The block is not YAML, or holds what a record of plain values cannot. -/
  | unreadable (reason : String)
  /-- The block is not a mapping. -/
  | notMapping
  /-- The mapping does not have the keys and types that the kind of document asks for. -/
  | mismatch (fault : RecordFault)
  deriving DecidableEq, Repr

/-- The wording of a frontmatter error. -/
def FrontmatterError.message : FrontmatterError → String
  | .unterminated => "Unterminated YAML frontmatter block: expected closing '---'"
  | .unreadable reason => "Frontmatter parse error: " ++ reason
  | .notMapping => "Frontmatter must be a YAML mapping at the top level"
  | .mismatch fault => "Frontmatter does not match schema: " ++ fault.message

/-- What is wrong with a block. -/
inductive BlockFault where
  /-- A fence that nothing but the end of its container closes. -/
  | unclosedFence (marker : Char)
  /-- Markup that does not parse, or another fault stated in words. -/
  | stated (reason : String)
  deriving DecidableEq, Repr

/-- The wording of a block's fault. -/
def BlockFault.message : BlockFault → String
  | .unclosedFence marker =>
    "code fence opened with '" ++ String.singleton marker ++ "' is never closed"
  | .stated reason => reason

/-- What is wrong with the order of stages. -/
inductive OrderFault where
  /-- The stage publishes raw text that no stage before it has kept. -/
  | attachesUnkept (stage : String)
  /-- The stage changes code before its raw text is kept. -/
  | highlightsUnkept (stage : String)
  /-- The stage changes code, and no stage after it publishes the raw text. -/
  | highlightsUnattached (stage : String)
  | stated (reason : String)
  deriving DecidableEq, Repr

/-- The wording of a fault in the order of stages. -/
def OrderFault.message : OrderFault → String
  | .attachesUnkept stage =>
    "stage '" ++ stage ++ "' attaches raw code text that no earlier stage preserved"
  | .highlightsUnkept stage =>
    "stage '" ++ stage ++ "' rewrites code before its raw text is preserved"
  | .highlightsUnattached stage =>
    "stage '" ++ stage ++ "' rewrites code but no later stage attaches the raw text"
  | .stated reason => reason

/-- What is wrong with the options of a compilation. -/
inductive OptionFault where
  | unknownTheme (theme : String) (known : List String)
  | stated (reason : String)
  deriving DecidableEq, Repr

/-- The wording of a fault in the options. -/
def OptionFault.message : OptionFault → String
  | .unknownTheme theme known =>
    "unknown highlight theme '" ++ theme ++ "' (available: " ++ ", ".intercalate known ++ ")"
  | .stated reason => reason

/-- What should not happen in an accepted pipeline. -/
inductive InternalFault where
  /-- Raw text is to be published for a code block that has none. -/
  | rawMissing (location : Option Location)
  | stated (reason : String)
  deriving DecidableEq, Repr

/-- The wording of an internal fault. -/
def InternalFault.message : InternalFault → String
  | .rawMissing location =>
    let place := match location with
      | some location => " at " ++ location.text
      | none => ""
    "code block" ++ place ++ " has no preserved raw text"
  | .stated reason => reason

/-- Why a document does not compile. -/
inductive CompileError where
  | frontmatter (cause : FrontmatterError)
  | block (fault : BlockFault) (location : Location)
  | component (name : String) (location : Location)
  | pipeline (fault : OrderFault)
  | options (fault : OptionFault)
  | internal (fault : InternalFault)
  deriving DecidableEq, Repr

namespace CompileError

/-- The wording of a compile error. -/
def message : CompileError → String
  | .frontmatter cause => "Malformed frontmatter: " ++ cause.message
  | .block fault location => "Malformed block at " ++ location.text ++ ": " ++ fault.message
  | .component name location => "Unresolved component at " ++ location.text ++ ": <" ++ name ++ ">"
  | .pipeline fault => "Invalid pipeline: " ++ fault.message
  | .options fault => "Invalid configuration: " ++ fault.message
  | .internal fault => "Internal error: " ++ fault.message

/-- The place of an error, if it has one. -/
def location? : CompileError → Option Location
  | .block _ location => some location
  | .component _ location => some location
  | _ => none

/-- The error seen from the source file, whose body starts `lines` lines further down. -/
def relocate (error : CompileError) (file : Option String) (lines : Nat) : CompileError :=
  match error with
  | .block fault location => .block fault (location.relocate file lines)
  | .component name location => .component name (location.relocate file lines)
  | error => error

end CompileError

end Folio
