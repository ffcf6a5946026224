import OpenPulls.Url.Parse

/-!
# The root of the interface

The address of a server may be given with blanks around it and slashes behind it, and with or
without the path of its interface. `Rest.root` brings it into one form.
-/

namespace OpenPulls.Rest

/-- Why a text is no address of a server. -/
inductive RootFault where
  | empty
  /-- The trimmed text is no address. -/
  | invalid (text : String) (fault : Url.Fault)
deriving Repr, DecidableEq

/-- The wording of a fault. -/
def RootFault.text : RootFault → String
  | .empty => "base URL is empty"
  | .invalid text fault => text ++ ": " ++ fault.text

/-- The path of the interface. -/
def rootPath : List Char := "/rest".toList

/-- The text of an address without blanks at its ends and slashes behind it. -/
def trimmed (text : List Char) : List Char := Text.dropEnd (· == '/') (Text.trim text)

/-- The root of the interface for the address of a server. -/
def root (address : String) : Except RootFault String :=
  let text := trimmed address.toList
  if text.isEmpty then .error .empty
  else
    match Url.parse text with
    | .error fault => .error (.invalid (String.ofList text) fault)
    | .ok _ =>
      if rootPath.isSuffixOf text then .ok (String.ofList text)
      else .ok (String.ofList (text ++ rootPath))

end OpenPulls.Rest
