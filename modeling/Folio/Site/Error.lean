import Folio.Error

/-!
# Errors of a site

Why a site's configuration cannot be used or a document of a site is not there.
-/

namespace Folio.Site

/-- What is wrong with a configuration. -/
inductive ConfigFault where
  /-- The document is not a configuration. -/
  | unreadable
  | noExtension
  | noThread
  deriving DecidableEq, Repr

/-- The wording of a fault in a configuration. -/
def ConfigFault.message : ConfigFault → String
  | .unreadable => "the document is not a configuration"
  | .noExtension => "at least one document extension is required"
  | .noThread => "maxThreads must be at least 1"

/-- Why something of a site is not there. -/
inductive LoadError where
  | missingDocument (id : String)
  | missingRoot (path : String)
  /-- The file is not there, or its bytes are not text. -/
  | unreadable (path : String)
  | compile (id : String) (error : CompileError)
  | config (fault : ConfigFault)
  deriving DecidableEq, Repr

/-- The wording of an error of a site. -/
def LoadError.message : LoadError → String
  | .missingDocument id => "No document with id '" ++ id ++ "'"
  | .missingRoot path => "Content root does not exist: " ++ path
  | .unreadable path => "Failed to read " ++ path ++ ": no text at this path"
  | .compile id error => "Failed to compile '" ++ id ++ "': " ++ error.message
  | .config fault => "Invalid content configuration: " ++ fault.message

/-- Whether the error says that there is no such document. -/
def LoadError.isMissingDocument : LoadError → Bool
  | .missingDocument _ => true
  | _ => false

end Folio.Site
