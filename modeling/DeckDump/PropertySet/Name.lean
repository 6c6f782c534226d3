import DeckDump.Guid

/-!
# Names in property sets

The property sets of a presentation that are known by their identifier, the names of their
properties, and of the systems that write them. Four properties have the same name in every set.
-/

namespace DeckDump.PropertySet

/-- The set of a document's title, author and dates. -/
def summaryInformation : Guid :=
  #v[0xE0, 0x85, 0x9F, 0xF2, 0xF9, 0x4F, 0x68, 0x10, 0xAB, 0x91, 0x08, 0x00, 0x2B, 0x27, 0xB3, 0xD9]

/-- The set of a document's category, counts and company. -/
def documentSummaryInformation : Guid :=
  #v[0x02, 0xD5, 0xCD, 0xD5, 0x9C, 0x2E, 0x1B, 0x10, 0x93, 0x97, 0x08, 0x00, 0x2B, 0x2C, 0xF9, 0xAE]

/-- The set of properties that the user named. -/
def userDefinedProperties : Guid :=
  #v[0x05, 0xD5, 0xCD, 0xD5, 0x9C, 0x2E, 0x1B, 0x10, 0x93, 0x97, 0x08, 0x00, 0x2B, 0x2C, 0xF9, 0xAE]

/-- The name of a property set. -/
def setName (set : Guid) : String :=
  if set = summaryInformation then "SummaryInformation"
  else if set = documentSummaryInformation then "DocumentSummaryInformation"
  else if set = userDefinedProperties then "UserDefinedProperties"
  else "unknown"

/-- The name of the system that wrote a property set. -/
def systemName (system : UInt32) : String :=
  match system.toNat / 0x10000 with
  | 0 => "Win16"
  | 1 => "Macintosh"
  | 2 => "Win32"
  | _ => "unknown"

/-- The properties of the summary information, from 2 on. -/
def summaryNames : List String :=
  ["Title", "Subject", "Author", "Keywords", "Comments", "Template", "LastAuthor", "RevNumber", "EditTime",
    "LastPrinted", "CreateDateTime", "LastSaveDateTime", "PageCount", "WordCount", "CharCount", "Thumbnail",
    "AppName", "DocSecurity"]

/-- The properties of the document summary information, from 2 on. -/
def documentSummaryNames : List String :=
  ["Category", "PresentationTarget", "Bytes", "Lines", "Paragraphs", "Slides", "Notes", "HiddenSlides", "MMClips",
    "ScaleCrop", "HeadingPairs", "TitlesOfParts", "Manager", "Company", "LinksUpToDate"]

/-- Entry number `id` of a list whose first entry has number 2. -/
def nameFrom (names : List String) (id : UInt32) : String :=
  if id < 2 then "" else names.getD (id.toNat - 2) ""

/-- The name of property `id` of a set; empty when it has none. -/
def propertyName (set : Guid) (id : UInt32) : String :=
  if id = 0 then "Dictionary"
  else if id = 1 then "CodePage"
  else if id = 0x80000000 then "Locale"
  else if id = 0x80000003 then "Behavior"
  else if set = summaryInformation then nameFrom summaryNames id
  else if set = documentSummaryInformation then nameFrom documentSummaryNames id
  else ""

end DeckDump.PropertySet
