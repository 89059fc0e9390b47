import DeckTools.Deck.Presentation

/-!
# A sample presentation

Two slides, a master and a layout, with an element of every kind: a title, an
image shown at half its size, a notes page, a video, a table, and a shape inside
two groups.  The word `findme` occurs once in the notes, once in the inner group
and once in the table.
-/

namespace DeckTools
namespace Rehearsal

/-! ## Parts -/

def emuSize (width height : Float) : Size Float :=
  { width := some (.ofEmu width), height := some (.ofEmu height) }

def placed (scale x y : Float) : Transform Float :=
  { Transform.translation x y with scaleX := scale, scaleY := scale }

def paragraph (content : String) : TextContent :=
  let stop := some (Int.ofNat content.length)
  { spans :=
      [{ startIndex := none, endIndex := stop, run := none, auto := none },
        { startIndex := none, endIndex := stop, run := some content, auto := none }] }

def named (objectId : String) : ElementInfo Float :=
  { objectId, size := none, transform := none, title := none, description := none }

def textShape (shapeType placeholder : Option String) (content : String) : Shape :=
  { shapeType
    text := some (paragraph content)
    placeholder := placeholder.map (fun type => { type := some type, parentObjectId := none }) }

def plainPage (objectId pageType : String) (elements : List (Element Float)) : Page Float :=
  { objectId, pageType := some pageType, elements
    layoutId := none, masterId := none, notes := none }

/-! ## Pages -/

def sampleNotes : Page Float :=
  plainPage "notes-1" "NOTES"
    [.shape (named "notes-body-1")
      (textShape (some "TEXT_BOX") (some "BODY") "Remember to findme the budget\n")]

def sampleTitleSlide : Page Float :=
  { objectId := "slide-1"
    pageType := some "SLIDE"
    elements :=
      [.shape
        { named "title-1" with
          size := some (emuSize 8000000 1000000)
          transform := some (placed 1 311700 744575) }
        (textShape (some "TEXT_BOX") (some "TITLE") "Quarterly Review\n"),
      .image
        { named "image-1" with
          size := some (emuSize 3000000 2000000)
          transform := some (placed 0.5 1000000 500000) }
        { contentUrl := some "https://lh3.example/image-1"
          sourceUrl := none
          properties := some (Json.object [("brightness", .float 0.1)]) }]
    layoutId := some "layout-1"
    masterId := some "master-1"
    notes := some sampleNotes }

def sampleTable : Table :=
  { rows := 2
    columns := 2
    cells :=
      [[some (paragraph "Name\n"), some (paragraph "findme cell\n")],
        [some (paragraph "Alice\n"), none]] }

def sampleMediaSlide : Page Float :=
  { objectId := "slide-2"
    pageType := some "SLIDE"
    elements :=
      [.video
        { named "video-1" with
          size := some (emuSize 4000000 2250000)
          transform := some (placed 1 0 0) }
        { id := some "dQw4w9WgXcQ"
          source := some "YOUTUBE"
          url := none
          playback :=
            some { autoPlay := some false, start := none, stop := none, mute := none } },
      .group (named "group-1")
        [.shape (named "group-inner-shape") (textShape (some "RECTANGLE") none "Inner text\n"),
        .group (named "nested-group")
          [.shape (named "deep-shape")
            (textShape (some "TEXT_BOX") none "Deep findme text\n")]],
      .table (named "table-1") sampleTable]
    layoutId := some "layout-1"
    masterId := some "master-1"
    notes := none }

def sampleDeck : Presentation Float :=
  { id := "pres-1"
    title := "Quarterly Review"
    revision := some "rev-1"
    pageSize := some (emuSize 9144000 5143500)
    slides := [sampleTitleSlide, sampleMediaSlide]
    masters :=
      [plainPage "master-1" "MASTER"
        [.shape (named "master-title") (textShape none none "Master\n")]]
    layouts := [plainPage "layout-1" "LAYOUT" []] }

end Rehearsal
end DeckTools
