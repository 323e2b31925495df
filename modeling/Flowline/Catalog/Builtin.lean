import Flowline.Catalog.Basic
/-!
The built-in catalog, for when the engine lists nothing.
-/
namespace Flowline.Catalog.Builtin

def operations (ops : List (String × String)) : Dict Operation :=
  Dict.ofList (ops.map fun (name, shown) => (name, ⟨name, shown, ""⟩))

def piece (name shown : String) (triggers actions : List (String × String)) : Piece where
  name := name
  displayName := shown
  description := ""
  version := "0.0.1"
  categories := []
  triggers := operations triggers
  actions := operations actions

def pieces : List Piece := [
  piece "@activepieces/piece-gmail" "Gmail"
    [("new-email", "New Email")]
    [("send-email", "Send Email"), ("read-email", "Read Email")],
  piece "@activepieces/piece-slack" "Slack"
    [("new-message", "New Message")]
    [("send-channel-message", "Send Message to Channel"),
      ("send-direct-message", "Send Direct Message")],
  piece "@activepieces/piece-google-sheets" "Google Sheets"
    [("new-row-added", "New Row Added")]
    [("insert-row", "Insert Row"), ("update-row", "Update Row")],
  piece "@activepieces/piece-schedule" "Schedule"
    [("cron_expression", "Cron Expression"), ("every_hour", "Every Hour"),
      ("every_day", "Every Day")]
    [],
  piece "@activepieces/piece-webhook" "Webhook"
    [("catch_request", "Catch Webhook")]
    [],
  piece "@activepieces/piece-http" "HTTP"
    []
    [("send-request", "Send HTTP Request")],
  piece "@activepieces/piece-openai" "OpenAI"
    []
    [("ask-chatgpt", "Ask ChatGPT"), ("generate-image", "Generate Image")],
  piece "@activepieces/piece-notion" "Notion"
    [("new-database-item", "New Database Item")]
    [("create-database-item", "Create Database Item"),
      ("update-database-item", "Update Database Item")],
  piece "@activepieces/piece-telegram-bot" "Telegram Bot"
    [("new-message", "New Message")]
    [("send-text-message", "Send Text Message")],
  piece "@activepieces/piece-discord" "Discord"
    [("new-message", "New Message")]
    [("send-message-webhook", "Send Message (Webhook)")],
  piece "@activepieces/piece-airtable" "Airtable"
    [("new-record", "New Record")]
    [("create-record", "Create Record")],
  piece "@activepieces/piece-hubspot" "HubSpot"
    [("new-contact", "New Contact")]
    [("create-contact", "Create Contact"), ("update-contact", "Update Contact")],
  piece "@activepieces/piece-whatsapp" "WhatsApp"
    []
    [("send-message", "Send Message")],
  piece "@activepieces/piece-google-calendar" "Google Calendar"
    [("new-event", "New Event")]
    [("create-event", "Create Event")],
  piece "@activepieces/piece-google-drive" "Google Drive"
    [("new-file", "New File")]
    [("upload-file", "Upload File")],
  piece "@activepieces/piece-linkedin" "LinkedIn"
    []
    [("create-share-update", "Create Share Update")],
  piece "@activepieces/piece-twitter" "Twitter/X"
    []
    [("create-tweet", "Create Tweet")],
  piece "@activepieces/piece-trello" "Trello"
    [("new-card", "New Card")]
    [("create-card", "Create Card")]]

end Flowline.Catalog.Builtin

namespace Flowline.Catalog

def builtin : Catalog := ofPieces .builtin Builtin.pieces

end Flowline.Catalog
