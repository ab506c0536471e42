import AuditReport.Markup.EmojiNames
import AuditReport.Text.LowerCase
import AuditReport.Text.Words

/-!
# Emoji codes

A name between colons stands for an emoji, in any letter case. The name may be followed by a wish for
the form of the emoji, as text or as a picture. An unknown name stays as it is, with its colons.
-/
namespace AuditReport.Markup

/-- Every other word with the one that follows it. -/
def pairUp : List (List Char) → List (List Char × List Char)
  | name :: emoji :: rest => (name, emoji) :: pairUp rest
  | _ => []

def emojiTable : List (List Char × List Char) :=
  pairUp (Text.words emojiNames.toList)

/-- The wishes for a form of an emoji, with the selectors that are put after it. -/
def emojiForms : List (List Char × Char) :=
  [("-emoji".toList, Char.ofNat 0xfe0f), ("-text".toList, Char.ofNat 0xfe0e)]

def emoji? (code : List Char) : Option (List Char) :=
  let form := emojiForms.find? fun f => f.1.isSuffixOf code
  let name := code.take (code.length - (form.elim 0 fun f => f.1.length))
  (emojiTable.lookup (name.map Text.lower)).map fun e => e ++ (form.map (·.2)).toList

def isCodeChar (c : Char) : Bool :=
  c != ':' && !Text.isBlank c

def replaceCodes : List Char → List Char
  | [] => []
  | c :: s =>
    if c = ':' then
      match h : s.dropWhile isCodeChar with
      | ':' :: rest =>
        have : rest.length < s.length := by
          have := (List.dropWhile_suffix isCodeChar (l := s)).length_le
          rw [h] at this
          exact this
        let code := s.takeWhile isCodeChar
        (emoji? code).getD (':' :: code ++ [':']) ++ replaceCodes rest
      | _ => ':' :: replaceCodes s
    else c :: replaceCodes s
  termination_by s => s.length

end AuditReport.Markup
