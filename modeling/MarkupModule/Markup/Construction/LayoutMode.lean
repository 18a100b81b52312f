import MarkupModule.Text.Ascii
import MarkupModule.Text.Search
import MarkupModule.Markup.Token

/-! Document types that ask for the older layout rules. Under those a table does not close a
paragraph, which is the only difference they make here. -/

namespace MarkupModule.Markup.Construction

open MarkupModule.Text

/-- Public identifiers that ask for the older rules. -/
def olderPublicIds : List String := [
  "-//w3o//dtd w3 html strict 3.0//en//", "-/w3c/dtd html 4.0 transitional/en", "html"]

/-- System identifiers that ask for the older rules. -/
def olderSystemIds : List String := [
  "http://www.ibm.com/data/dtd/v11/ibmxhtml1-transitional.dtd"]

/-- Beginnings of public identifiers that ask for the older rules. -/
def olderPublicBeginnings : List String := [
  "+//silmaril//dtd html pro v0r11 19970101//", "-//as//dtd html 3.0 aswedit + extensions//",
  "-//advasoft ltd//dtd html 3.0 aswedit + extensions//", "-//ietf//dtd html 2.0 level 1//",
  "-//ietf//dtd html 2.0 level 2//", "-//ietf//dtd html 2.0 strict level 1//",
  "-//ietf//dtd html 2.0 strict level 2//", "-//ietf//dtd html 2.0 strict//",
  "-//ietf//dtd html 2.0//", "-//ietf//dtd html 2.1e//", "-//ietf//dtd html 3.0//",
  "-//ietf//dtd html 3.2 final//", "-//ietf//dtd html 3.2//", "-//ietf//dtd html 3//",
  "-//ietf//dtd html level 0//", "-//ietf//dtd html level 1//", "-//ietf//dtd html level 2//",
  "-//ietf//dtd html level 3//", "-//ietf//dtd html strict level 0//",
  "-//ietf//dtd html strict level 1//", "-//ietf//dtd html strict level 2//",
  "-//ietf//dtd html strict level 3//", "-//ietf//dtd html strict//", "-//ietf//dtd html//",
  "-//metrius//dtd metrius presentational//",
  "-//microsoft//dtd internet explorer 2.0 html strict//",
  "-//microsoft//dtd internet explorer 2.0 html//",
  "-//microsoft//dtd internet explorer 2.0 tables//",
  "-//microsoft//dtd internet explorer 3.0 html strict//",
  "-//microsoft//dtd internet explorer 3.0 html//",
  "-//microsoft//dtd internet explorer 3.0 tables//", "-//netscape comm. corp.//dtd html//",
  "-//netscape comm. corp.//dtd strict html//", "-//o'reilly and associates//dtd html 2.0//",
  "-//o'reilly and associates//dtd html extended 1.0//",
  "-//o'reilly and associates//dtd html extended relaxed 1.0//",
  "-//softquad software//dtd hotmetal pro 6.0::19990601::extensions to html 4.0//",
  "-//softquad//dtd hotmetal pro 4.0::19971010::extensions to html 4.0//",
  "-//spyglass//dtd html 2.0 extended//", "-//sq//dtd html 2.0 hotmetal + extensions//",
  "-//sun microsystems corp.//dtd hotjava html//",
  "-//sun microsystems corp.//dtd hotjava strict html//", "-//w3c//dtd html 3 1995-03-24//",
  "-//w3c//dtd html 3.2 draft//", "-//w3c//dtd html 3.2 final//", "-//w3c//dtd html 3.2//",
  "-//w3c//dtd html 3.2s draft//", "-//w3c//dtd html 4.0 frameset//",
  "-//w3c//dtd html 4.0 transitional//", "-//w3c//dtd html experimental 19960712//",
  "-//w3c//dtd html experimental 970421//", "-//w3c//dtd w3 html//", "-//w3o//dtd w3 html 3.0//",
  "-//webtechs//dtd mozilla html 2.0//", "-//webtechs//dtd mozilla html//"]

/-- Beginnings of public identifiers that ask for the older rules when no system identifier follows. -/
def olderWithoutSystemId : List String := [
  "-//w3c//dtd html 4.01 frameset//", "-//w3c//dtd html 4.01 transitional//"]

/-- Whether a text begins with one of a list of beginnings. -/
def beginsWithOne (beginnings : List String) (s : String) : Bool :=
  beginnings.any fun beginning => startsWith beginning.toList s.toList

/-- Whether a document type asks for the older layout rules. -/
def asksForOlderRules (declaration : DocumentType) : Bool :=
  let publicId := declaration.publicId.map lowerName
  let systemId := declaration.systemId.map lowerName
  declaration.forceQuirks || declaration.name != some "html" ||
    publicId.any olderPublicIds.contains || systemId.any olderSystemIds.contains ||
    publicId.any (beginsWithOne olderPublicBeginnings) ||
    (systemId.isNone && publicId.any (beginsWithOne olderWithoutSystemId))

end MarkupModule.Markup.Construction
