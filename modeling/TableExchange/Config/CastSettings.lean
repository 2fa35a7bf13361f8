import TableExchange.Cell.Codec
import TableExchange.Config.Getters

/-!
# Cast settings in a document

The settings of a codec stand under `common.column`; what is absent has its default.

* `CastSettings.ofDocument`: the settings of a document.
-/

namespace TableExchange

namespace CastSettings

def location : String := "common.column"

def path (key : String) : String := location ++ "." ++ key

def ofDocument (doc : Json) : Except ConfigError CastSettings := do
  let defaults : CastSettings := {}
  let dateTimeFormat ← Config.stringOr doc (path "datetimeFormat") defaults.dateTimeFormat
  let dateFormat ← Config.stringOr doc (path "dateFormat") defaults.dateFormat
  let timeFormat ← Config.stringOr doc (path "timeFormat") defaults.timeFormat
  let extraFormats ← Config.stringList doc (path "extraFormats")
  let timeZone ← Config.stringOr doc (path "timeZone") defaults.timeZone
  let encoding ← Config.stringOr doc (path "encoding") defaults.encoding
  return { dateTimeFormat, dateFormat, timeFormat, extraFormats, timeZone, encoding }

end CastSettings

end TableExchange
