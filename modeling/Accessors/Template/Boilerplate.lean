import Accessors.QualifiedName
import Accessors.Template.Basic

/-!
The text around generated accessors: a header that declares the output class, and a source file
that defines its own members.
-/

set_option autoImplicit false

namespace Accessors.Template

namespace Hole

def className : String := "CLASS"

def includeBase : String := "INCLUDE"

def namespaceBegin : String := "NAMESPACE_BEGIN"

def namespaceEnd : String := "NAMESPACE_END"

def generated : String := "GENERATED"

end Hole

def header : Template := [
  .text ("\n#pragma once\n\n#include <iostream>\n#include <memory>\n" ++
    "#include <string>\n\nnamespace Json \x7b\nclass Value;\n\x7d\n\n"),
  .hole Hole.namespaceBegin,
  .text "\n/**\n * A class providing native access to JSON data.\n */\nclass ",
  .hole Hole.className,
  .text (" \x7b\npublic:\n\ttypedef std::shared_ptr<::Json::Value> ValuePtr;\n\n" ++
    "\t/**\n\t * A constructor.\n\t */\n\t"),
  .hole Hole.className,
  .text ("();\n\n\t/**\n" ++
    "\t * Construct the accessor from a stream holding a JSON document.\n" ++
    "\t */\n\t"),
  .hole Hole.className,
  .text "(std::istream &is);\n\n\t/**\n\t * A destructor.\n\t */\n\t~",
  .hole Hole.className,
  .text ("();\n\n\t/**\n\t * Read a JSON document from a stream.\n\t */\n" ++
    "\tvoid read(std::istream &is);\n\n\t// generated accessors\n"),
  .hole Hole.generated,
  .text "\nprivate:\n\tValuePtr m_root;\n\x7d;\n\n",
  .hole Hole.namespaceEnd,
  .text "\n"]

def source : Template := [
  .text "\n#include \"",
  .hole Hole.includeBase,
  .text (".h\"\n\n#include <memory>\n\n#include <json/reader.h>\n" ++
    "#include <json/value.h>\n\n"),
  .hole Hole.namespaceBegin,
  .text "\n",
  .hole Hole.className,
  .text "::",
  .hole Hole.className,
  .text "() \x7b\n\n\x7d\n\n",
  .hole Hole.className,
  .text "::",
  .hole Hole.className,
  .text "(std::istream& is) \x7b\n\tread(is);\n\x7d\n\n",
  .hole Hole.className,
  .text "::~",
  .hole Hole.className,
  .text "() \x7b\n\n\x7d\n\nvoid ",
  .hole Hole.className,
  .text ("::read(std::istream &is) \x7b\n\t::Json::CharReaderBuilder builder;\n" ++
    "\t::Json::Value root;\n\tstd::string errs;\n" ++
    "\t::Json::parseFromStream(builder, is, &root, &errs);\n" ++
    "\tm_root = std::make_shared< ::Json::Value >(root);\n\x7d\n\n" ++
    "// generated accessors\n"),
  .hole Hole.generated,
  .text "\n",
  .hole Hole.namespaceEnd,
  .text "\n"]

/-- The values for both templates. The header's base name is what the source includes. -/
def values (name : QualifiedName) (includeBase generated : String) (hole : String) :
    Option String :=
  if hole = Hole.className then some name.className
  else if hole = Hole.includeBase then some includeBase
  else if hole = Hole.namespaceBegin then some name.opening
  else if hole = Hole.namespaceEnd then some name.closing
  else if hole = Hole.generated then some generated
  else none

end Accessors.Template
