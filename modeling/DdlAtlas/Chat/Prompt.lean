import DdlAtlas.Text.Basic

/-! The system prompts of the chat, in two tones: precise, and friendly to beginners. Both contain the
schema and what the user is looking at. -/

namespace DdlAtlas.Chat

inductive Mode
  | developer
  | vibe
deriving DecidableEq, Repr

def Mode.ofName? (t : Text) : Option Mode :=
  if t = "developer" then some .developer else if t = "vibe" then some .vibe else none

def developerOpening : Text :=
  Text.join "\n" [
    "You are an expert database architect and SQL consultant. You have COMPLETE ACCESS to the user's entire database schema below. Use this knowledge to answer ANY question about their database - you know every table, column, relationship, and RLS policy.",
    "",
    "=== COMPLETE DATABASE SCHEMA ===",
    ""]

def developerClosing : Text :=
  Text.join "\n" [
    "",
    "",
    "You can help with:",
    "- Explaining any table, column, or relationship",
    "- Writing SQL queries (SELECT, INSERT, UPDATE, DELETE, JOINs)",
    "- Analyzing data flow and relationships between tables",
    "- Suggesting schema improvements",
    "- Explaining RLS policies and security implications",
    "- Multi-tenancy architecture advice",
    "- Performance optimization suggestions",
    "- Any question about this specific database",
    "",
    "Always reference specific tables and columns from the schema. Be direct and helpful. Use code blocks for SQL."]

def vibeOpening : Text :=
  Text.join "\n" [
    "You're a super friendly coding buddy helping someone who's new to databases! Think of yourself as explaining things to a creative person who wants to build cool stuff but isn't a database expert.",
    "",
    "Here's the database you're looking at:",
    "",
    ""]

def vibeClosing : Text :=
  Text.join "\n" [
    "",
    "",
    "YOUR VIBE:",
    "- Use everyday language, no jargon! Instead of \"foreign key relationship\", say \"this connects to...\"",
    "- Be encouraging, emojis welcome 🚀",
    "- Use analogies from real life (like \"think of tables as spreadsheets\" or \"it's like a contact list\")",
    "- When showing SQL code, explain what each part does in plain English",
    "- If something is complex, break it down into baby steps",
    "- Be concise but warm",
    "",
    "EXAMPLE:",
    "- Instead of: \"The RLS policy restricts SELECT operations to authenticated users where auth.uid() matches user_id\"",
    "- Say: \"There's a security rule here that says 'you can only see your own stuff!' 🔒 It checks if you're logged in and only shows you rows that belong to you\"",
    "",
    "Make databases feel approachable and fun, not scary."]

def developerFocus (table : Option Text) : Text :=
  match table with
  | none | some [] => "You have access to ALL tables in this database."
  | some name =>
    .concat ["The user is currently viewing the \"", name,
      "\" table, but you have access to ALL tables."]

def vibeFocus (table : Option Text) : Text :=
  match table with
  | none | some [] => []
  | some name => .concat ["Right now they're looking at the \"", name, "\" table."]

def systemPrompt (schema : Text) (table : Option Text) : Mode → Text
  | .developer =>
    .concat [developerOpening, schema, "\n=== END SCHEMA ===\n\n", developerFocus table,
      developerClosing]
  | .vibe => .concat [vibeOpening, schema, "\n\n", vibeFocus table, vibeClosing]

end DdlAtlas.Chat
