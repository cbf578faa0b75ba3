/-
# Error -- what can go wrong, and how it is said

An error is a cause with the values that describe it.  The wording of every cause
stands here, and nowhere else.
-/

namespace Wikilink

set_option autoImplicit false

/-- What is wrong with a link type or with its registration. -/
inductive Misconfiguration where
  /-- A field-set without a path. -/
  | emptyFieldSet (contentType : String)
  /-- A field path with an empty segment. -/
  | malformedPath (path contentType : String)
  /-- A field path that starts at no member. -/
  | unknownField (field contentType : String)
  /-- A field path that starts at a method with required arguments. -/
  | methodNeedsArguments (method contentType : String) (required : Nat)
  /-- An embeddable attribute that is no member. -/
  | unknownAttribute (attr contentType : String)
  /-- No name for the field that holds the URL. -/
  | emptyUrlField
  /-- A registration under no shortcut. -/
  | noShortcut (contentType : String)
  /-- A shortcut that is not a word. -/
  | malformedShortcut (shortcut : String)
  /-- Another link type stands for the content type. -/
  | contentTypeTaken (contentType : String)
  deriving DecidableEq, Repr

/-- Why a value or a stored index is refused. -/
inductive Refusal where
  | notASmartlink
  /-- The smartlink leads to no single object. -/
  | unresolvedSmartlink
  /-- The stored index has another layout version. -/
  | layoutVersion (stored current : Nat)
  /-- The directory for the index cannot be made. -/
  | noDirectory (reason : String)
  deriving DecidableEq, Repr

/-- The cause of a failure. -/
inductive Error where
  /-- Nothing is registered, so nothing can be resolved. -/
  | nothingRegistered
  | misconfigured (fault : Misconfiguration)
  | shortcutTaken (shortcut : String)
  /-- The row is already in the index. -/
  | duplicateRow (key contentType : String) (id : Nat)
  | embedFailed (attr reason : String)
  /-- The object store failed. -/
  | sourceFailed (reason : String)
  | refused (why : Refusal)
  /-- There is no index under the index path, and none can be made there. -/
  | notAnIndex (reason : String)
  deriving DecidableEq, Repr

namespace Misconfiguration

def message : Misconfiguration → String
  | emptyFieldSet contentType => s!"empty field-set for content type '{contentType}'"
  | malformedPath path contentType =>
      s!"malformed field path '{path}' for content type '{contentType}'"
  | unknownField field contentType =>
      s!"field '{field}' does not exist on content type '{contentType}'"
  | methodNeedsArguments method contentType required =>
      s!"method '{method}' of content type '{contentType}' takes {required} " ++
        "required argument(s), expected none"
  | unknownAttribute attr contentType =>
      s!"embeddable attribute '{attr}' does not exist on content type '{contentType}'"
  | emptyUrlField => "url_field must not be empty"
  | noShortcut contentType => s!"no shortcut given for content type '{contentType}'"
  | malformedShortcut shortcut => s!"shortcut '{shortcut}' must consist of word characters only"
  | contentTypeTaken contentType =>
      s!"content type '{contentType}' already has a configuration; " ++
        "register further shortcuts with the same one"

end Misconfiguration

namespace Refusal

def message : Refusal → String
  | notASmartlink =>
      "Enter a valid smartlink. The syntax is [[ smartlink ]] or [[ smartlink | verbose text ]] " ++
        "or [[ model->smartlink ]] or [[ model->smartlink | verbose text ]]."
  | unresolvedSmartlink =>
      "This smartlink has correct formatting, " ++
        "but it did not resolve to a valid existing object."
  | layoutVersion stored current =>
      s!"Index schema v{stored} does not match v{current}. " ++
        "Delete the index file and run `smartlinks reset-index`."
  | noDirectory reason => s!"Failed to create directory: {reason}"

end Refusal

namespace Error

def message : Error → String
  | nothingRegistered => "No smartlink configuration is registered"
  | misconfigured fault => s!"Incorrectly configured smartlink: {fault.message}"
  | shortcutTaken shortcut =>
      s!"Shortcut '{shortcut}' is already defined in the smartlinks configuration"
  | duplicateRow key contentType id =>
      s!"Duplicate index entry: value={key}, content_type={contentType}, object_id={id}"
  | embedFailed attr reason => s!"Embed '{attr}' failed: {reason}"
  | sourceFailed reason => s!"Object source error: {reason}"
  | refused why => s!"Validation error: {why.message}"
  | notAnIndex reason => s!"Database error: I/O error: {reason}"

end Error

end Wikilink
