/-
The objects of an HTML document: `html.c` and `url.c`.

libtidy makes a tree of the document (it is outside the repository: here the tree is given).  The walk
over it collects the addresses of images, scripts and links in the order of the document.  An absolute
address is taken apart by a regular expression, a relative one belongs to the first host.

* `htmlFindObjects_eq` — the walk is the document's elements in order, each with what it asks for;
* `urlGetParts` — host and path of an absolute address.

How a text is put into lower case depends on Unicode and on the locale: `strdown` is `g_utf8_strdown`.
-/
import Mathlib.Data.List.Infix
import ShadowBrowser.FileTransfer

namespace ShadowBrowser

open Texts Torrent FileTransfer

namespace BrowserPlugin

/-! ### The tree -/

/-- A node of the tree that `TidyNode` stands for: a text has no name, and an attribute may have no
value. -/
inductive TidyNode
  | node (name : Option (List UInt8)) (attrs : List (List UInt8 × Option (List UInt8)))
      (children : List TidyNode)

variable (strdown : List UInt8 → List UInt8)

/-- `html_get_attributes`, as the table it makes: names are in lower case, and a later attribute
replaces an earlier one of its name. -/
def htmlGetAttributes (attrs : List (List UInt8 × Option (List UInt8))) (name : List UInt8) :
    Option (List UInt8) :=
  (attrs.reverse.find? fun a => strdown a.1 = name).bind Prod.snd

/-- `html_parse_img`. -/
def htmlParseImg (attrs : List UInt8 → Option (List UInt8)) : Option (List UInt8) :=
  attrs (ascii "src")

/-- `html_parse_link`. -/
def htmlParseLink (attrs : List UInt8 → Option (List UInt8)) : Option (List UInt8) :=
  let rel := attrs (ascii "rel")
  let source := attrs (ascii "href")
  if rel = some (ascii "stylesheet") then source
  else if rel = some (ascii "shortcut icon") then source
  else none

/-- `html_parse_script`. -/
def htmlParseScript (attrs : List UInt8 → Option (List UInt8)) : Option (List UInt8) :=
  let rel := attrs (ascii "type")
  let source := attrs (ascii "src")
  if rel = some (ascii "text/javascript") ∧ source ≠ none then source else none

/-- `g_ascii_strncasecmp(name, text, n) == 0`, where `n` is the length of the text. -/
def BeginsWith (name text : List UInt8) : Prop := (name.map toLower).take text.length = text

instance (name text : List UInt8) : Decidable (BeginsWith name text) :=
  inferInstanceAs (Decidable (_ = _))

/-- What an element of `html_find_objects` asks for: only the beginning of its name is looked at. -/
def TidyNode.url : TidyNode → Option (List UInt8)
  | .node none _ _ => none
  | .node (some name) attrs _ =>
    let attrs := htmlGetAttributes strdown attrs
    if BeginsWith name (ascii "img") then htmlParseImg attrs
    else if BeginsWith name (ascii "script") then htmlParseScript attrs
    else if BeginsWith name (ascii "link") then htmlParseLink attrs
    else none

mutual

/-- `html_find_objects`: what it appends to the list. -/
def htmlFindObjects : TidyNode → List (List UInt8)
  | .node _ _ children => htmlFindAll children

/-- The loop over the children. -/
def htmlFindAll : List TidyNode → List (List UInt8)
  | [] => []
  | child :: children => (child.url strdown).toList ++ htmlFindObjects child ++ htmlFindAll children

end

/-- `html_parse`; a document that libtidy gives up on has no objects. -/
def htmlParse (tidy : List UInt8 → Option TidyNode) (html : List UInt8) : List (List UInt8) :=
  ((tidy html).map (htmlFindObjects strdown)).getD []

mutual

/-- The nodes below a node, in the order of the document. -/
def TidyNode.descendants : TidyNode → List TidyNode
  | .node _ _ children => TidyNode.allDescendants children

/-- Some nodes and those below them. -/
def TidyNode.allDescendants : List TidyNode → List TidyNode
  | [] => []
  | child :: children => child :: child.descendants ++ TidyNode.allDescendants children

end

mutual

/-- **The objects of a document are what its elements ask for, in their order.** -/
theorem htmlFindObjects_eq (n : TidyNode) :
    htmlFindObjects strdown n = n.descendants.filterMap (TidyNode.url strdown) := by
  cases n with
  | node name attrs children =>
    rw [htmlFindObjects, TidyNode.descendants]
    exact htmlFindAll_eq children

theorem htmlFindAll_eq (ns : List TidyNode) :
    htmlFindAll strdown ns = (TidyNode.allDescendants ns).filterMap (TidyNode.url strdown) := by
  cases ns with
  | nil => rfl
  | cons n ns =>
    rw [htmlFindAll, TidyNode.allDescendants, htmlFindObjects_eq n, htmlFindAll_eq ns, List.filterMap_append,
      List.filterMap_cons]
    cases n.url strdown <;> rfl

end

/-- What the elements of a document ask for, in their order. -/
def addresses (tidy : List UInt8 → Option TidyNode) (html : List UInt8) : List (List UInt8) :=
  ((tidy html).map fun root => root.descendants.filterMap (TidyNode.url strdown)).getD []

theorem htmlParse_eq (tidy : List UInt8 → Option TidyNode) (html : List UInt8) :
    htmlParse strdown tidy html = addresses strdown tidy html := by
  rw [htmlParse, addresses, funext (htmlFindObjects_eq strdown)]

/-! ### Addresses -/

/-- `/`. -/
def slash : UInt8 := 47

/-- `url_is_absolute`. -/
def UrlIsAbsolute (url : List UInt8) : Prop :=
  ascii "http://" <+: url ∨ ascii "https://" <+: url ∨ ascii "//" <+: url

instance (url : List UInt8) : Decidable (UrlIsAbsolute url) := inferInstanceAs (Decidable (_ ∨ _))

/-- What is behind the first group of the regular expression, `(http[s]?:\/\/|\/\/)`. -/
def afterScheme (url : List UInt8) : Option (List UInt8) :=
  if BeginsWith url (ascii "http://") then some (url.drop 7)
  else if BeginsWith url (ascii "https://") then some (url.drop 8)
  else if BeginsWith url (ascii "//") then some (url.drop 2)
  else none

/-- What `.` does not match: the newlines of Unicode, that is line feed, vertical tab, form feed, carriage
return, next line, and the line and paragraph separators. -/
def newlines : List (List UInt8) :=
  [[0x0a], [0x0b], [0x0c], [0x0d], [0xc2, 0x85], [0xe2, 0x80, 0xa8], [0xe2, 0x80, 0xa9]]

/-- The third group, `(.*?)([^\/]*)` up to the end, takes everything if there is no newline in front of
the last slash. -/
def PathMatches (path : List UInt8) : Prop :=
  ∀ newline ∈ newlines, ¬ newline <:+: (path.reverse.dropWhile (· ≠ slash)).reverse

instance (path : List UInt8) : Decidable (PathMatches path) :=
  inferInstanceAs (Decidable (∀ newline ∈ newlines, _))

/-- A byte that is not the first of its character. -/
def IsContinuation (b : UInt8) : Prop := 0x80 ≤ b ∧ b ≤ 0xbf

instance (b : UInt8) : Decidable (IsContinuation b) := inferInstanceAs (Decidable (_ ∧ _))

/-- The first two bytes of a character of three: none that has a shorter form, and no surrogate. -/
def StartsThree (a b : UInt8) : Prop :=
  0xe0 ≤ a ∧ a ≤ 0xef ∧ IsContinuation b ∧ (a = 0xe0 → 0xa0 ≤ b) ∧ (a = 0xed → b ≤ 0x9f)

/-- The first two bytes of a character of four: none that has a shorter form, and none beyond the
last. -/
def StartsFour (a b : UInt8) : Prop :=
  0xf0 ≤ a ∧ a ≤ 0xf4 ∧ IsContinuation b ∧ (a = 0xf0 → 0x90 ≤ b) ∧ (a = 0xf4 → b ≤ 0x8f)

instance (a b : UInt8) : Decidable (StartsThree a b) := inferInstanceAs (Decidable (_ ∧ _))
instance (a b : UInt8) : Decidable (StartsFour a b) := inferInstanceAs (Decidable (_ ∧ _))

/-- Whether it is UTF-8, without which the regular expression does not match. -/
def isUtf8 : List UInt8 → Bool
  | [] => true
  | a :: l =>
    if a < 0x80 then isUtf8 l
    else
      match l with
      | [] => false
      | b :: l =>
        if 0xc2 ≤ a ∧ a ≤ 0xdf then decide (IsContinuation b) && isUtf8 l
        else
          match l with
          | [] => false
          | c :: l =>
            if StartsThree a b then decide (IsContinuation c) && isUtf8 l
            else
              match l with
              | [] => false
              | d :: l =>
                decide (StartsFour a b ∧ IsContinuation c ∧ IsContinuation d) && isUtf8 l

/-- `url_crack`: the second group and the third.  The second one, `([^\/]+)`, takes all it can. -/
def urlCrack (url : List UInt8) : Option (List UInt8 × List UInt8) :=
  if isUtf8 url = false then none
  else (afterScheme url).bind fun rest =>
    if rest.takeWhile (· ≠ slash) ≠ [] ∧ PathMatches (rest.dropWhile (· ≠ slash)) then
      some (rest.takeWhile (· ≠ slash), rest.dropWhile (· ≠ slash))
    else none

/-- `url_get_parts`: the name of the host is in lower case. -/
def urlGetParts (url : List UInt8) : Option (List UInt8 × List UInt8) :=
  (urlCrack url).map fun p => (strdown p.1, p.2)

end BrowserPlugin

end ShadowBrowser
