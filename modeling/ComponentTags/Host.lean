import ComponentTags.Text.Lowercase

/-!
# Hosts

What the environment that renders a template knows of elements. A host is asked only whether an
unresolved tag deserves a warning; it never changes how a tag resolves.
-/

namespace ComponentTags

/-- An environment that takes some tags for elements it does not know. -/
structure Host where
  isUnknown : String → Bool

/-- The HTML elements a browser builds as something other than an unknown element. -/
def htmlElements : List String := [
  "html", "head", "body", "base", "link", "meta", "style", "title", "script", "noscript",
  "template", "address", "article", "aside", "footer", "header", "h1", "h2", "h3", "h4", "h5",
  "h6", "hgroup", "main", "nav", "section", "search", "blockquote", "dd", "div", "dl", "dt",
  "figcaption", "figure", "hr", "li", "menu", "ol", "p", "pre", "ul", "a", "abbr", "b", "bdi",
  "bdo", "br", "cite", "code", "dfn", "em", "i", "kbd", "mark", "q", "rp", "rt", "ruby", "s",
  "samp", "small", "span", "strong", "sub", "sup", "u", "var", "wbr", "area", "audio", "img",
  "map", "track", "video", "embed", "iframe", "object", "param", "picture", "portal", "source",
  "canvas", "del", "ins", "caption", "col", "colgroup", "table", "tbody", "td", "tfoot", "th",
  "thead", "tr", "button", "datalist", "fieldset", "form", "input", "label", "legend", "meter",
  "optgroup", "option", "output", "progress", "select", "textarea", "slot", "acronym", "applet",
  "basefont", "big", "blink", "center", "dir", "font", "frame", "frameset", "marquee", "nobr",
  "noembed", "noframes", "plaintext", "strike", "tt", "xmp", "listing", "image", "keygen",
  "menuitem"]

/-- The SVG elements a browser knows, in lower case. -/
def svgElements : List String := [
  "svg", "path", "circle", "ellipse", "line", "polyline", "polygon", "rect", "g", "defs", "use",
  "symbol", "clippath", "mask", "pattern", "marker", "lineargradient", "radialgradient", "stop",
  "filter", "foreignobject", "switch", "text", "tspan", "textpath", "desc", "metadata", "view",
  "animate", "animatemotion", "animatetransform", "set", "mpath"]

/-- The MathML elements a browser knows. -/
def mathElements : List String := [
  "math", "mi", "mn", "mo", "ms", "mspace", "mtext", "mrow", "mfrac", "msqrt", "mroot", "mstyle",
  "merror", "mpadded", "mphantom", "msub", "msup", "msubsup", "munder", "mover", "munderover",
  "mtable", "mtr", "mtd", "semantics", "annotation"]

/-- Standard elements that some engines still report as unknown. -/
def lateElements : List String := ["data", "time", "rtc", "rb", "details", "dialog", "summary"]

/-- Whether a lowercase tag is an element of the standards. -/
def isStandardElement (tag : String) : Bool :=
  htmlElements.contains tag || svgElements.contains tag || mathElements.contains tag ||
    lateElements.contains tag

/-- A browser: a tag with a hyphen is a custom element nobody defined, and any other tag is unknown
unless the standards have it. -/
def Host.browser : Host where
  isUnknown tag :=
    let name := Text.lowercase tag
    name.toList.contains '-' || !isStandardElement name

/-- A host without a notion of elements: no tag is unknown to it. -/
def Host.permissive : Host where
  isUnknown _ := false

end ComponentTags
