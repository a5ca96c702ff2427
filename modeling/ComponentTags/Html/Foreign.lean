import ComponentTags.Html.Document

/-!
# Names in SVG and MathML

Tags and attribute names are read in lower case, but SVG and MathML tell cases apart. These tables give
the names back their spelling. A name with a prefix of its own vocabulary loses the prefix.
-/

namespace ComponentTags.Html

/-- The MathML spelling of attribute names that differ from their lowercase. -/
def mathmlAttributes : List (String × String) := [("definitionurl", "definitionURL")]

/-- The SVG spelling of attribute names that differ from their lowercase. -/
def svgAttributes : List (String × String) := [
  ("attributename", "attributeName"), ("attributetype", "attributeType"),
  ("basefrequency", "baseFrequency"), ("baseprofile", "baseProfile"), ("calcmode", "calcMode"),
  ("clippathunits", "clipPathUnits"), ("diffuseconstant", "diffuseConstant"),
  ("edgemode", "edgeMode"), ("filterunits", "filterUnits"), ("glyphref", "glyphRef"),
  ("gradienttransform", "gradientTransform"), ("gradientunits", "gradientUnits"),
  ("kernelmatrix", "kernelMatrix"), ("kernelunitlength", "kernelUnitLength"),
  ("keypoints", "keyPoints"), ("keysplines", "keySplines"), ("keytimes", "keyTimes"),
  ("lengthadjust", "lengthAdjust"), ("limitingconeangle", "limitingConeAngle"),
  ("markerheight", "markerHeight"), ("markerunits", "markerUnits"), ("markerwidth", "markerWidth"),
  ("maskcontentunits", "maskContentUnits"), ("maskunits", "maskUnits"),
  ("numoctaves", "numOctaves"), ("pathlength", "pathLength"),
  ("patterncontentunits", "patternContentUnits"), ("patterntransform", "patternTransform"),
  ("patternunits", "patternUnits"), ("pointsatx", "pointsAtX"), ("pointsaty", "pointsAtY"),
  ("pointsatz", "pointsAtZ"), ("preservealpha", "preserveAlpha"),
  ("preserveaspectratio", "preserveAspectRatio"), ("primitiveunits", "primitiveUnits"),
  ("refx", "refX"), ("refy", "refY"), ("repeatcount", "repeatCount"), ("repeatdur", "repeatDur"),
  ("requiredextensions", "requiredExtensions"), ("requiredfeatures", "requiredFeatures"),
  ("specularconstant", "specularConstant"), ("specularexponent", "specularExponent"),
  ("spreadmethod", "spreadMethod"), ("startoffset", "startOffset"),
  ("stddeviation", "stdDeviation"), ("stitchtiles", "stitchTiles"),
  ("surfacescale", "surfaceScale"), ("systemlanguage", "systemLanguage"),
  ("tablevalues", "tableValues"), ("targetx", "targetX"), ("targety", "targetY"),
  ("textlength", "textLength"), ("viewbox", "viewBox"), ("viewtarget", "viewTarget"),
  ("xchannelselector", "xChannelSelector"), ("ychannelselector", "yChannelSelector"),
  ("zoomandpan", "zoomAndPan")]

/-- The SVG spelling of tags that differ from their lowercase. -/
def svgTags : List (String × String) := [
  ("altglyph", "altGlyph"), ("altglyphdef", "altGlyphDef"), ("altglyphitem", "altGlyphItem"),
  ("animatecolor", "animateColor"), ("animatemotion", "animateMotion"),
  ("animatetransform", "animateTransform"), ("clippath", "clipPath"), ("feblend", "feBlend"),
  ("fecolormatrix", "feColorMatrix"), ("fecomponenttransfer", "feComponentTransfer"),
  ("fecomposite", "feComposite"), ("feconvolvematrix", "feConvolveMatrix"),
  ("fediffuselighting", "feDiffuseLighting"), ("fedisplacementmap", "feDisplacementMap"),
  ("fedistantlight", "feDistantLight"), ("fedropshadow", "feDropShadow"), ("feflood", "feFlood"),
  ("fefunca", "feFuncA"), ("fefuncb", "feFuncB"), ("fefuncg", "feFuncG"), ("fefuncr", "feFuncR"),
  ("fegaussianblur", "feGaussianBlur"), ("feimage", "feImage"), ("femerge", "feMerge"),
  ("femergenode", "feMergeNode"), ("femorphology", "feMorphology"), ("feoffset", "feOffset"),
  ("fepointlight", "fePointLight"), ("fespecularlighting", "feSpecularLighting"),
  ("fespotlight", "feSpotLight"), ("fetile", "feTile"), ("feturbulence", "feTurbulence"),
  ("foreignobject", "foreignObject"), ("glyphref", "glyphRef"),
  ("lineargradient", "linearGradient"), ("radialgradient", "radialGradient"),
  ("textpath", "textPath")]

/-- The names within their vocabularies of attributes that belong to another one than the element. -/
def linkAttributes : List (String × String) := [
  ("xlink:actuate", "actuate"), ("xlink:arcrole", "arcrole"), ("xlink:href", "href"),
  ("xlink:role", "role"), ("xlink:show", "show"), ("xlink:title", "title"), ("xlink:type", "type"),
  ("xml:base", "base"), ("xml:lang", "lang"), ("xml:space", "space"), ("xmlns:xlink", "xlink")]

/-- A name, or the spelling that a table has for it. -/
def respell (table : List (String × String)) (name : String) : String :=
  (table.lookup name).getD name

/-- The attributes that a tag gives to an element of a vocabulary. -/
def foreignAttributes (space : Space) (t : Tag) : List Attribute :=
  let own :=
    match space with
    | .html => []
    | .mathml => mathmlAttributes
    | .svg => svgAttributes
  t.attributes.map fun a => { a with name := respell linkAttributes (respell own a.name) }

end ComponentTags.Html
