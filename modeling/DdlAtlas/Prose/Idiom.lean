import DdlAtlas.Pattern.Search

/-! Familiar shapes of predicates and the words for them. A catalogue is an ordered list of idioms; a
predicate is described by the first idiom whose pattern occurs in it, so a two-sided comparison comes
before its one-sided parts. -/

namespace DdlAtlas.Prose

open Pattern

/-- A shape of predicates; without a fragment it is recognised and left unsaid. -/
structure Idiom where
  name : Text
  pattern : Pattern
  fragment : Option Text

def equation (left right : Text) : Pattern :=
  sequence [word left, gap, exactly "=", gap, word right]

def userIs (column : Text) : Pattern :=
  equation "auth.uid()" column

def existsThen (p : Pattern) : Pattern :=
  sequence [word "EXISTS", longest (· != '\n') p.front, p]

def onlyLiteral (t : Text) : Pattern :=
  sequence [textStart, alt (exactly t) (sequence [exactly "(", exactly t, exactly ")"]), textEnd]

def usingIdioms : List Idiom :=
  [⟨"owner_user_id", userIs "user_id",
      some "only their own data (where user_id matches their login)"⟩,
    ⟨"owner_id", userIs "id", some "only their own record"⟩,
    ⟨"sender_or_recipient",
      sequence [userIs "sender_id", space, word "OR", space, userIs "recipient_id"],
      some "only messages they sent or received"⟩,
    ⟨"sender", userIs "sender_id", some "only messages they sent"⟩,
    ⟨"recipient", userIs "recipient_id", some "only messages they received"⟩,
    ⟨"published", equation "is_published" "true", some "only published content"⟩,
    ⟨"authenticated_role", equation "auth.role()" "'authenticated'", some "only if logged in"⟩,
    ⟨"anon_role", equation "auth.role()" "'anon'", some "even without logging in"⟩,
    ⟨"admin_auth_role", equation "auth.role()" "'admin'", some "only admins"⟩,
    ⟨"admin_role_column", equation "role" "'admin'", some "only users with admin role"⟩,
    ⟨"moderator_role_column", equation "role" "'moderator'", some "only moderators"⟩,
    ⟨"exists_admin", existsThen (equation "role" "'admin'"), some "only if user is an admin"⟩,
    ⟨"exists_moderator", existsThen (equation "role" "'moderator'"),
      some "only if user is a moderator"⟩,
    ⟨"exists_published", existsThen (equation "is_published" "true"),
      some "only on published posts"⟩,
    ⟨"is_admin_flag", word "is_admin", some "only if they are an admin"⟩,
    ⟨"literal_true", onlyLiteral "true", some "unrestricted"⟩,
    ⟨"literal_false", onlyLiteral "false", some "access blocked"⟩]

def withCheckIdioms : List Idiom :=
  [⟨"owner_user_id", userIs "user_id", some "Must set user_id to own ID"⟩,
    ⟨"sender", userIs "sender_id", some "Must be the sender"⟩,
    ⟨"owner_id", userIs "id", some "Can only modify own record"⟩,
    ⟨"literal_true", onlyLiteral "true", none⟩]

def idiom? (catalogue : List Idiom) (predicate : Text) : Option Idiom :=
  catalogue.find? fun i => i.pattern.occursIn (Text.trim predicate)

end DdlAtlas.Prose
