import ComponentTags.Html.Parse
import ComponentTags.Template.Flatten
import ComponentTags.Template.SelfClosing
import ComponentTags.Text.Fold

/-!
# Reading templates

A template is HTML in which component tags may close themselves. Any text is a template.
-/

namespace ComponentTags

/-- Whether a source writes the root of the document itself: `<html` occurs in it, in any letter case.
No character but an ASCII letter has one of these letters as its lowercase. -/
def writesRoot (source : String) : Bool :=
  Text.occursIn "<html".toList (source.toList.map Char.toLower)

/-- Reads a template. -/
def Template.parse (source : String) : Template :=
  ⟨source, Node.collectAll (writesRoot source) (Html.parse (SelfClosing.expand source))⟩

end ComponentTags
