import AtomicCss.Text.Basic

/-!
Contract: the built-in abbreviations of CSS properties.

Owns: the tables, one for each group of properties.

Does not own: looking an abbreviation up, with or without a number after it.
-/

namespace AtomicCss.Lexicon.Aliases

/-- Abbreviations, each with the properties that it stands for. -/
abbrev Table := List (String × List String)

/-- Margins and paddings. -/
def spacing : Table :=
  [("m", ["margin"]), ("p", ["padding"]), ("mt", ["margin-top"]),
   ("mb", ["margin-bottom"]), ("ml", ["margin-left"]), ("mr", ["margin-right"]),
   ("mx", ["margin-inline"]), ("my", ["margin-block"]), ("mbs", ["margin-block-start"]),
   ("mbe", ["margin-block-end"]), ("mis", ["margin-inline-start"]),
   ("mie", ["margin-inline-end"]), ("pt", ["padding-top"]), ("pb", ["padding-bottom"]),
   ("pl", ["padding-left"]), ("pr", ["padding-right"]), ("px", ["padding-inline"]),
   ("py", ["padding-block"]), ("pbs", ["padding-block-start"]),
   ("pbe", ["padding-block-end"]), ("pis", ["padding-inline-start"]),
   ("pie", ["padding-inline-end"])]

/-- Widths, heights and logical sizes. -/
def dimensions : Table :=
  [("w", ["width"]), ("h", ["height"]), ("maxw", ["max-width"]),
   ("maxh", ["max-height"]), ("minw", ["min-width"]), ("minh", ["min-height"]),
   ("bw", ["block-size"]), ("iw", ["inline-size"]), ("maxbw", ["max-block-size"]),
   ("maxiw", ["max-inline-size"]), ("minbw", ["min-block-size"]),
   ("miniw", ["min-inline-size"])]

/-- Colours and backgrounds. -/
def colours : Table :=
  [("bg", ["background"]), ("bgc", ["background-color"]), ("bgi", ["background-image"]),
   ("bgp", ["background-position"]), ("bgr", ["background-repeat"]),
   ("bgs", ["background-size"]), ("bga", ["background-attachment"]),
   ("bgo", ["background-origin"]), ("bgcl", ["background-clip"]), ("c", ["color"]),
   ("atc", ["accent-color"]), ("ctc", ["caret-color"])]

/-- Fonts and text. -/
def typography : Table :=
  [("fs", ["font-size"]), ("fstr", ["font-stretch"]), ("fw", ["font-weight"]),
   ("ff", ["font-family"]), ("fst", ["font-style"]), ("fv", ["font-variant"]),
   ("lh", ["line-height"]), ("ls", ["letter-spacing"]), ("ws", ["word-spacing"]),
   ("wb", ["word-break"]), ("ww", ["word-wrap"]), ("hy", ["hyphens"]),
   ("ta", ["text-align"]), ("td", ["text-decoration"]), ("tt", ["text-transform"]),
   ("ti", ["text-indent"]), ("ts", ["text-shadow"]), ("to", ["text-overflow"]),
   ("va", ["vertical-align"]), ("wm", ["writing-mode"]),
   ("lc", ["line-clamp", "-webkit-line-clamp"])]

/-- Display, position and overflow. -/
def layout : Table :=
  [("d", ["display"]), ("pos", ["position"]), ("t", ["top"]), ("r", ["right"]),
   ("b", ["bottom"]), ("l", ["left"]), ("z", ["z-index"]), ("fl", ["float"]),
   ("cl", ["clear"]), ("v", ["visibility"]), ("of", ["overflow"]),
   ("ofx", ["overflow-x"]), ("ofy", ["overflow-y"]), ("ofw", ["overflow-wrap"]),
   ("clip", ["clip-path"]), ("rs", ["resize"]), ("cur", ["cursor"])]

/-- Flexible boxes. -/
def flexbox : Table :=
  [("f", ["flex"]), ("fd", ["flex-direction"]), ("fwrap", ["flex-wrap"]),
   ("fflow", ["flex-flow"]), ("fg", ["flex-grow"]), ("fsh", ["flex-shrink"]),
   ("fb", ["flex-basis"]), ("jc", ["justify-content"]), ("ai", ["align-items"]),
   ("ac", ["align-content"]), ("as", ["align-self"]), ("ji", ["justify-items"]),
   ("js", ["justify-self"]), ("pi", ["place-items"]), ("ps", ["place-self"]),
   ("pc", ["place-content"]), ("gap", ["gap"]), ("rg", ["row-gap"]),
   ("cg", ["column-gap"])]

/-- Grids. -/
def grids : Table :=
  [("grid", ["grid"]), ("gt", ["grid-template"]), ("gtr", ["grid-template-rows"]),
   ("gtc", ["grid-template-columns"]), ("gta", ["grid-template-areas"]),
   ("gr", ["grid-row"]), ("gc", ["grid-column"]), ("ga", ["grid-area"]),
   ("grs", ["grid-row-start"]), ("gre", ["grid-row-end"]),
   ("gcs", ["grid-column-start"]), ("gce", ["grid-column-end"]),
   ("gaf", ["grid-auto-flow"]), ("gar", ["grid-auto-rows"]),
   ("gac", ["grid-auto-columns"])]

/-- Borders and outlines. -/
def borders : Table :=
  [("bd", ["border"]), ("bt", ["border-top"]), ("br", ["border-right"]),
   ("bb", ["border-bottom"]), ("bl", ["border-left"]), ("bdw", ["border-width"]),
   ("btw", ["border-top-width"]), ("brw", ["border-right-width"]),
   ("bbw", ["border-bottom-width"]), ("blw", ["border-left-width"]),
   ("bs", ["border-style"]), ("bts", ["border-top-style"]),
   ("brs", ["border-right-style"]), ("bls", ["border-left-style"]),
   ("bc", ["border-color"]), ("btc", ["border-top-color"]),
   ("brc", ["border-right-color"]), ("bbc", ["border-bottom-color"]),
   ("blc", ["border-left-color"]), ("brad", ["border-radius"]),
   ("brtl", ["border-top-left-radius"]), ("brtr", ["border-top-right-radius"]),
   ("brbl", ["border-bottom-left-radius"]), ("brbr", ["border-bottom-right-radius"]),
   ("bradl", ["border-top-left-radius", "border-bottom-left-radius"]),
   ("bradr", ["border-top-right-radius", "border-bottom-right-radius"]),
   ("bradt", ["border-top-left-radius", "border-top-right-radius"]),
   ("bradb", ["border-bottom-left-radius", "border-bottom-right-radius"]),
   ("braddl", ["border-top-left-radius", "border-bottom-right-radius"]),
   ("braddr", ["border-top-right-radius", "border-bottom-left-radius"]),
   ("bi", ["border-image"]), ("bimgsrc", ["border-image-source"]),
   ("bisl", ["border-image-slice"]), ("biw", ["border-image-width"]),
   ("bio", ["border-image-outset"]), ("bir", ["border-image-repeat"]),
   ("ol", ["outline"]), ("olw", ["outline-width"]), ("ols", ["outline-style"]),
   ("olc", ["outline-color"]), ("olo", ["outline-offset"])]

/-- Effects and transforms. -/
def effects : Table :=
  [("op", ["opacity"]), ("vis", ["visibility"]), ("bxsh", ["box-shadow"]),
   ("filter", ["filter"]), ("backdrop", ["backdrop-filter"]), ("tf", ["transform"]),
   ("tfo", ["transform-origin"]), ("tfs", ["transform-style"]),
   ("pers", ["perspective"]), ("perso", ["perspective-origin"]), ("ani", ["animation"]),
   ("andur", ["animation-duration"]), ("anf", ["animation-fill-mode"]),
   ("ann", ["animation-name"]), ("anr", ["animation-iteration-count"]),
   ("ans", ["animation-timing-function"]), ("andel", ["animation-delay"]),
   ("andir", ["animation-direction"]), ("anps", ["animation-play-state"]),
   ("tr", ["transition"]), ("trd", ["transition-duration"]),
   ("trp", ["transition-property"]), ("trf", ["transition-timing-function"]),
   ("trdl", ["transition-delay"])]

/-- Lists and tables. -/
def listing : Table :=
  [("lstyle", ["list-style"]), ("lst", ["list-style-type"]),
   ("lsp", ["list-style-position"]), ("lsi", ["list-style-image"]),
   ("tl", ["table-layout"]), ("bcol", ["border-collapse"]),
   ("bspac", ["border-spacing"]), ("cs", ["caption-side"]), ("es", ["empty-cells"])]

/-- The pointer and other user interface properties. -/
def interaction : Table :=
  [("app", ["appearance"]), ("us", ["user-select"]), ("pe", ["pointer-events"]),
   ("will", ["will-change"]), ("cont", ["contain"]), ("iso", ["isolation"]),
   ("mix", ["mix-blend-mode"]), ("obj", ["object-fit"]), ("objp", ["object-position"])]

/-- Multiple columns. -/
def columns : Table :=
  [("cols", ["columns"]), ("cspan", ["column-span"]), ("colc", ["column-count"]),
   ("colw", ["column-width"]), ("colg", ["column-gap"]), ("colr", ["column-rule"]),
   ("colrc", ["column-rule-color"]), ("colrs", ["column-rule-style"]),
   ("colrw", ["column-rule-width"]), ("colf", ["column-fill"]), ("cb", ["column-break"])]

/-- Functions that may stand where a property stands. -/
def functionLike : Table :=
  [("var", ["var"]), ("calc", ["calc"]), ("attr", ["attr"])]

/-- Logical offsets. -/
def logical : Table :=
  [("bis", ["border-inline-start"]), ("bie", ["border-inline-end"]),
   ("bbs", ["border-block-start"]), ("bbe", ["border-block-end"]),
   ("misw", ["margin-inline-start-width"]), ("miew", ["margin-inline-end-width"])]

/-- Every built-in abbreviation. -/
def all : Table :=
  [spacing, dimensions, colours, typography, layout, flexbox, grids, borders, effects,
   listing, interaction, columns, functionLike, logical].flatten

/-- The built-in abbreviations as texts. -/
def texts : List (Text × List Text) :=
  all.map fun entry => (entry.1.toList, entry.2.map String.toList)

end AtomicCss.Lexicon.Aliases
