import FormRules.Unicode.Blank

/-!
Web addresses: the scheme in any case, `://`, and a text without white space.
-/

namespace FormRules.Format.Url

/-- Whether a character is a given lower-case letter in some case. The long s is
a form of the letter s. -/
def isLetter (letter c : Char) : Bool :=
  c.toLower == letter || (letter == 's' && c == '\u017F')

/-- Removes a word that may be written in any case. -/
def dropWord? (word chars : List Char) : Option (List Char) :=
  match word, chars with
  | [], rest => some rest
  | letter :: word, c :: rest => if isLetter letter c then dropWord? word rest else none
  | _ :: _, [] => none

/-- What may follow the two slashes: a character other than white space and
`/ $ . ? #`, and no white space after it. -/
def isAddress (chars : List Char) : Bool :=
  match chars with
  | [] => false
  | first :: rest =>
    !(['/', '$', '.', '?', '#'].contains first) && !Unicode.isWhiteSpace first &&
      rest.all fun c => !Unicode.isWhiteSpace c

/-- Whether a text is a web address. -/
def isUrl (chars : List Char) : Bool :=
  let afterScheme (word : String) :=
    match dropWord? word.toList chars with
    | some (':' :: '/' :: '/' :: rest) => isAddress rest
    | _ => false
  afterScheme "http" || afterScheme "https"

end FormRules.Format.Url
