import Stencil.Card.Basic
import Stencil.Engine.Basic

set_option autoImplicit false

/-! # The cards of the site

Cards for newsletters, meetings, resources and glossary terms, and their registration. -/

namespace Stencil

namespace Card

open Stencil.Card.Part Stencil.Card.Term

/-- Prints a field of the record. -/
def printField (path : List String) : Part := print (field path)

/-- A field as a date in words. -/
def dateField (path : List String) (preset : String) : Term :=
  filtered (field path) (.helper .formatDate [.str preset])

/-- A field with a capital first. -/
def capitalField (path : List String) : Term :=
  filtered (field path) (.helper .capitalize [])

/-- The field with a category, its first hyphen made a space, with a capital first. -/
def categoryField : Term :=
  filtered (filtered (field ["category"]) (.replaceFirst '-' ' ')) (.helper .capitalize [])

/-- The card of a newsletter. -/
def newsletter : Card :=
  { name := "newsletterCard"
    argument := "newsletter"
    parts := [
      markup "<div class=\"newsletter-card\">\n  <div class=\"card-header\">\n    <h3>",
      printField ["title"],
      markup "</h3>\n    <p class=\"quarter\">",
      printField ["quarter"],
      markup " Quarter ",
      printField ["year"],
      markup ("</p>\n  </div>\n  <div class=\"card-content\">\n" ++
        "    <p class=\"publish-date\">Published: "),
      print (dateField ["publishDate"] "short"),
      markup "</p>\n    <p class=\"description\">",
      printField ["description"],
      markup "</p>\n",
      .when (field ["highlights"]) [
        markup "    <ul class=\"highlights\">\n",
        forEach (field ["highlights"]) [markup "      <li>", print item, markup "</li>\n"],
        markup "    </ul>\n"],
      markup "    <a href=\"",
      printField ["filePath"],
      markup "\" class=\"btn btn-primary\" target=\"_blank\">\n      ",
      markup "<i class=\"fas fa-file-pdf\"></i> Download PDF\n    </a>\n  </div>\n</div>"] }

/-- The card of a meeting. -/
def meeting : Card :=
  { name := "meetingCard"
    argument := "meeting"
    parts := [
      markup "<div class=\"meeting-card\">\n  <div class=\"card-header\">\n    <h3>",
      print (orElse (orElse (field ["title"]) (field ["topic"])) (text "SAPA Meeting")),
      markup "</h3>\n    <p class=\"date\">",
      print (dateField ["date"] "long"),
      markup "</p>\n  </div>\n  <div class=\"card-content\">\n    <p class=\"time\">\n      ",
      markup "<i class=\"fas fa-clock\"></i>\n      Doors open: ",
      printField ["time", "doorsOpen"],
      markup "\n",
      .when (field ["time", "meetingStart"]) [
        markup " | Meeting: ",
        printField ["time", "meetingStart"]],
      markup "    </p>\n    <p class=\"location\">\n      ",
      markup "<i class=\"fas fa-map-marker-alt\"></i>\n      ",
      printField ["location", "name"],
      .when (field ["location", "building"]) [markup ", ", printField ["location", "building"]],
      markup "    </p>\n",
      .when (field ["presenter"]) [
        markup ("    <p class=\"presenter\">\n" ++
          "      <i class=\"fas fa-user\"></i>\n      Presenter: "),
        printField ["presenter", "name"],
        .when (field ["presenter", "title"]) [
          markup " (",
          printField ["presenter", "title"],
          markup ")"],
        markup "    </p>\n"],
      .when (field ["description"]) [
        markup "    <p class=\"description\">",
        printField ["description"],
        markup "</p>\n"],
      .when (field ["specialNotes"]) [
        markup ("    <div class=\"special-notes\">\n" ++
          "      <strong>Special Notes:</strong>\n      <ul>\n"),
        forEach (field ["specialNotes"]) [markup "        <li>", print item, markup "</li>\n"],
        markup "      </ul>\n    </div>\n"],
      markup "  </div>\n</div>"] }

/-- The card of a resource. -/
def resource : Card :=
  { name := "resourceCard"
    argument := "resource"
    parts := [
      markup "<div class=\"resource-card\">\n  <div class=\"card-header\">\n    <h3>",
      printField ["title"],
      markup "</h3>\n    <div class=\"meta\">\n      <span class=\"difficulty ",
      printField ["difficulty"],
      markup "\">",
      print (capitalField ["difficulty"]),
      markup "</span>\n      <span class=\"category\">",
      print categoryField,
      markup "</span>\n",
      .when (field ["estimatedReadTime"]) [
        markup "      <span class=\"read-time\">",
        printField ["estimatedReadTime"],
        markup " min read</span>\n"],
      markup "    </div>\n  </div>\n  <div class=\"card-content\">\n    <p class=\"summary\">",
      printField ["summary"],
      markup "</p>\n",
      .when (field ["tags"]) [
        markup "    <div class=\"tags\">\n",
        forEach (field ["tags"]) [markup "<span class=\"tag\">", print item, markup "</span>"],
        markup "    </div>\n"],
      markup "    <a href=\"/resources/",
      printField ["slug"],
      markup "\" class=\"btn btn-primary\">Read More</a>\n  </div>\n</div>"] }

/-- The card of a glossary term. -/
def glossaryTerm : Card :=
  { name := "glossaryTerm"
    argument := "term"
    parts := [
      markup "<div class=\"glossary-term\">\n  <h3 class=\"term-name\">",
      printField ["term"],
      markup "</h3>\n",
      .when (field ["alternateNames"]) [
        markup "  <p class=\"alternate-names\">\n    Also known as: ",
        print (filtered (field ["alternateNames"]) (.join ", ")),
        markup "\n  </p>\n"],
      markup "  <p class=\"definition\">",
      printField ["definition"],
      markup "</p>\n",
      .when (field ["detailedDescription"]) [
        markup "  <p class=\"detailed-description\">",
        printField ["detailedDescription"],
        markup "</p>\n"],
      markup "  <div class=\"term-meta\">\n    <span class=\"category\">",
      print categoryField,
      markup "</span>\n    <span class=\"difficulty ",
      printField ["difficulty"],
      markup "\">",
      print (capitalField ["difficulty"]),
      markup "</span>\n  </div>\n</div>"] }

/-- The cards, in the order in which they are registered. -/
def site : List Card := [newsletter, meeting, resource, glossaryTerm]

/-- The text that a filter leaves in a card for a value, where no page is being rendered. -/
def filterAlone (helpers : Registry Helper) (f : Filter) (v : Value) : Outcome String := do
  let r ← f.apply helpers .empty v
  printed r

end Card

/-- The engine with the cards of the site. -/
def Engine.registerSite [Attributes] (e : Engine) : Engine :=
  Card.site.foldl (fun e c => e.registerComponent c.name c.component) e

end Stencil
