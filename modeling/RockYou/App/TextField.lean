import Mathlib
import RockYou.Library.Language
import RockYou.App.SignUp

namespace RockYou.App

namespace EmailPattern

open RegularExpression

def span (first last : Nat) : List Char :=
  (List.range' first (last + 1 - first)).map Char.ofNat

/-- Matching ignores the case; two letters outside ASCII are case variants of letters inside. -/
def variants (character : Char) : List Char :=
  [character, character.toLower, character.toUpper] ++
    (if character.toLower = 's' then [Char.ofNat 0x17F] else []) ++
    if character.toLower = 'k' then [Char.ofNat 0x212A] else []

def characterSet (characters : List Char) : RegularExpression Char :=
  oneOf (characters.flatMap variants)

def letterOrDigit : List Char := span 0x61 0x7A ++ span 0x30 0x39

def atomText : List Char := letterOrDigit ++ "!#$%&'*+/=?^_`\x7b|\x7d~-".toList

def quotedText : List Char :=
  span 0x01 0x08 ++ [Char.ofNat 0x0B, Char.ofNat 0x0C] ++ span 0x0E 0x1F ++ [Char.ofNat 0x21] ++
    span 0x23 0x5B ++ span 0x5D 0x7F

def literalText : List Char :=
  span 0x01 0x08 ++ [Char.ofNat 0x0B, Char.ofNat 0x0C] ++ span 0x0E 0x1F ++ span 0x21 0x5A ++
    span 0x53 0x7F

def escapedText : List Char :=
  span 0x01 0x09 ++ [Char.ofNat 0x0B, Char.ofNat 0x0C] ++ span 0x0E 0x7F

def escaped : RegularExpression Char := char '\\' * characterSet escapedText

def localPart : RegularExpression Char :=
  many (characterSet atomText) * star (char '.' * many (characterSet atomText)) +
    char '"' * (star (characterSet quotedText + escaped) * char '"')

def label : RegularExpression Char :=
  characterSet letterOrDigit *
    optional (star (characterSet (letterOrDigit ++ ['-'])) * characterSet letterOrDigit)

def octet : RegularExpression Char :=
  char '2' * (char '5' * oneOf (span 0x30 0x35)) +
    char '2' * (oneOf (span 0x30 0x34) * oneOf (span 0x30 0x39)) +
    optional (oneOf ['0', '1']) * (oneOf (span 0x30 0x39) * optional (oneOf (span 0x30 0x39)))

def addressLiteral : RegularExpression Char :=
  octet + star (characterSet (letterOrDigit ++ ['-'])) *
    (characterSet letterOrDigit * (char ':' * many (characterSet literalText + escaped)))

def domain : RegularExpression Char :=
  many (label * char '.') * label +
    char '[' * ((octet * char '.') ^ 3 * (addressLiteral * char ']'))

def emailRegEx : RegularExpression Char := localPart * (char '@' * domain)

end EmailPattern

/-- The part of a `WLITextField` that decides about its text. -/
structure WLITextField where
  text : String
  maxCharacter : Int
  allowCharacterOnly : Option String

def WLITextField.initial : WLITextField where
  text := ""
  maxCharacter := 2 ^ 63 - 1
  allowCharacterOnly := none

structure NSRange where
  location : Nat
  length : Nat

def utf16Size (c : Char) : Nat := if c.toNat < 0x10000 then 1 else 2

def utf16Count (text : String) : Nat := (text.toList.map utf16Size).sum

namespace WLITextField

def isValid (email : String) : Bool := EmailPattern.emailRegEx.rmatch email.toList

variable (count : String → Nat)

def checkForMaxCharacters (range : NSRange) (string : String) (field : WLITextField) : Bool :=
  let currentCharacterCount := count field.text
  if currentCharacterCount < range.length + range.location then false
  else
    let newLength : Int := currentCharacterCount + count string - range.length
    newLength ≤ field.maxCharacter

/-- `components(separatedBy:)` and `joined(separator: "")`. -/
def joinedComponents (allowed string : String) : String :=
  String.ofList ((string.toList.splitOnP fun c => c ∉ allowed.toList).flatten)

/-- The delegate is set, and leaves the decision to the field. -/
def shouldChangeCharactersIn (range : NSRange) (string : String) (field : WLITextField) : Bool :=
  if checkForMaxCharacters count range string field = false then false
  else
    match field.allowCharacterOnly with
    | some allowed => string = joinedComponents allowed string
    | none => true

def Edits (field : WLITextField) (front removed back string : String) (next : WLITextField) :
    Prop :=
  field.text = front ++ removed ++ back ∧
    next = if shouldChangeCharactersIn count ⟨utf16Count front, utf16Count removed⟩ string field
      then { field with text := front ++ string ++ back } else field

end WLITextField

structure SignUpView (F : Type) where
  txtUserName : WLITextField
  txtPassword : WLITextField
  txtEmail : WLITextField
  txtPhone : WLITextField
  backend : SignUp.Backend F

namespace SignUpView

variable {F : Type}

def phoneCharacters : String := "+0123456789"

def viewDidLoad (backend : SignUp.Backend F) : SignUpView F where
  txtUserName := .initial
  txtPassword := .initial
  txtEmail := .initial
  txtPhone :=
    { WLITextField.initial with maxCharacter := 11, allowCharacterOnly := some phoneCharacters }
  backend := backend

def form (view : SignUpView F) : SignUp.Form where
  txtUserName := view.txtUserName.text
  txtPassword := view.txtPassword.text
  txtEmail := view.txtEmail.text
  txtPhone := view.txtPhone.text

def submitBtnDidTap (service : SignUp.Service) (view : SignUpView F) : SignUpView F :=
  { view with
    backend := (SignUp.submitBtnDidTap WLITextField.isValid view.form service view.backend).1 }

end SignUpView

end RockYou.App
