import Componentry.Text.Search

/-!
# Document types

A document type names a public and a system identifier.  Those of old documents
ask for the rules of their time (`Doctype.isOld`), of which one is left: a table
may stand in a paragraph.  Identifiers are compared without regard to case.
-/

namespace Componentry.Document

/-- A document type. -/
structure Doctype where
  name : Option Text
  publicId : Option Text
  systemId : Option Text
  /-- Whether it is malformed. -/
  faulty : Bool
deriving DecidableEq, Repr

namespace Doctype

/-- A well-formed document type without identifiers. -/
def named (name : Text) : Doctype := ⟨some name, none, none, false⟩

/-- The public identifiers of old documents. -/
def oldPublicIds : List String :=
  ["-//w3o//dtd w3 html strict 3.0//en//", "-/w3c/dtd html 4.0 transitional/en", "html"]

/-- How the public identifiers of old documents start. -/
def oldPublicStarts : List String :=
  ["-//advasoft ltd//dtd html 3.0 aswedit + extensions//",
    "-//as//dtd html 3.0 aswedit + extensions//",
    "-//ietf//dtd html 2.0 level 1//",
    "-//ietf//dtd html 2.0 level 2//",
    "-//ietf//dtd html 2.0 strict level 1//",
    "-//ietf//dtd html 2.0 strict level 2//",
    "-//ietf//dtd html 2.0 strict//",
    "-//ietf//dtd html 2.0//",
    "-//ietf//dtd html 2.1e//",
    "-//ietf//dtd html 3.0//",
    "-//ietf//dtd html 3.2 final//",
    "-//ietf//dtd html 3.2//",
    "-//ietf//dtd html 3//",
    "-//ietf//dtd html level 0//",
    "-//ietf//dtd html level 1//",
    "-//ietf//dtd html level 2//",
    "-//ietf//dtd html level 3//",
    "-//ietf//dtd html strict level 0//",
    "-//ietf//dtd html strict level 1//",
    "-//ietf//dtd html strict level 2//",
    "-//ietf//dtd html strict level 3//",
    "-//ietf//dtd html strict//",
    "-//ietf//dtd html//",
    "-//metrius//dtd metrius presentational//",
    "-//microsoft//dtd internet explorer 2.0 html strict//",
    "-//microsoft//dtd internet explorer 2.0 html//",
    "-//microsoft//dtd internet explorer 2.0 tables//",
    "-//microsoft//dtd internet explorer 3.0 html strict//",
    "-//microsoft//dtd internet explorer 3.0 html//",
    "-//microsoft//dtd internet explorer 3.0 tables//",
    "-//netscape comm. corp.//dtd html//",
    "-//netscape comm. corp.//dtd strict html//",
    "-//o'reilly and associates//dtd html 2.0//",
    "-//o'reilly and associates//dtd html extended 1.0//",
    "-//o'reilly and associates//dtd html extended relaxed 1.0//",
    "-//softquad software//dtd hotmetal pro 6.0::19990601::extensions to html 4.0//",
    "-//softquad//dtd hotmetal pro 4.0::19971010::extensions to html 4.0//",
    "-//spyglass//dtd html 2.0 extended//",
    "-//sq//dtd html 2.0 hotmetal + extensions//",
    "-//sun microsystems corp.//dtd hotjava html//",
    "-//sun microsystems corp.//dtd hotjava strict html//",
    "-//w3c//dtd html 3 1995-03-24//",
    "-//w3c//dtd html 3.2 draft//",
    "-//w3c//dtd html 3.2 final//",
    "-//w3c//dtd html 3.2//",
    "-//w3c//dtd html 3.2s draft//",
    "-//w3c//dtd html 4.0 frameset//",
    "-//w3c//dtd html 4.0 transitional//",
    "-//w3c//dtd html experimental 19960712//",
    "-//w3c//dtd html experimental 970421//",
    "-//w3c//dtd w3 html//",
    "-//w3o//dtd w3 html 3.0//",
    "-//webtechs//dtd mozilla html 2.0//",
    "-//webtechs//dtd mozilla html//"]

/-- How public identifiers start that belong to old documents if no system
identifier stands behind them. -/
def oldAloneStarts : List String :=
  ["-//w3c//dtd html 4.01 frameset//", "-//w3c//dtd html 4.01 transitional//"]

/-- The parts between the slashes of the one system identifier of old
documents. -/
def oldSystemParts : List String :=
  ["http:", "", "www.ibm.com", "data", "dtd", "v11", "ibmxhtml1-transitional.dtd"]

/-- The system identifier of old documents. -/
def oldSystemId : Text := (String.intercalate "/" oldSystemParts).toList

/-- Whether a text starts with one of the given ones. -/
def startsAmong (starts : List String) (s : Text) : Bool :=
  starts.any fun start => Text.startsWith start.toList s

/-- Whether a public identifier belongs to old documents, given whether a system
identifier stands behind it. -/
def isOldPublic (alone : Bool) (id : Text) : Bool :=
  let id := Text.asciiLower id
  oldPublicIds.contains (String.ofList id) || startsAmong oldPublicStarts id ||
    (alone && startsAmong oldAloneStarts id)

/-- Whether a document of this type follows the rules of old documents. -/
def isOld (type : Doctype) : Bool :=
  type.faulty || type.name != some "html".toList ||
    type.systemId.any (fun id => Text.asciiLower id = oldSystemId) ||
    type.publicId.any (isOldPublic type.systemId.isNone)

end Doctype

end Componentry.Document
