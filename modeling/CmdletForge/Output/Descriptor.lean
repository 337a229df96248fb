import CmdletForge.Output.Staging
import CmdletForge.Settings.Project

/-!
# Project descriptors

The file that a build starts from. A descriptor says where it lies and what it says of a project;
`Descriptor.csproj` is the one for a library of the .NET standard.
-/

namespace CmdletForge

/-- A descriptor. -/
structure Descriptor where
  path : ProjectSettings → String
  contentType : ContentType
  render : ProjectSettings → String

namespace Descriptor

/-- The text without a beginning, if it has it. -/
def dropBeginning (beginning text : String) : String :=
  if beginning.toList.isPrefixOf text.toList then
    String.ofList (text.toList.drop beginning.toList.length)
  else text

/-- What a release build defines. Only modules for Azure are signed. -/
def releaseLines (azure : Bool) : List String :=
  if azure then
    ["    <SignAssembly>true</SignAssembly>",
      "    <DelaySign>true</DelaySign>",
      "    <AssemblyOriginatorKeyFile>MSSharedLibKey.snk</AssemblyOriginatorKeyFile>",
      "    <DefineConstants>TRACE;RELEASE;NETSTANDARD;SIGN</DefineConstants>"]
  else ["    <DefineConstants>TRACE;RELEASE;NETSTANDARD</DefineConstants>"]

/-- The lines of a library's descriptor. -/
def csprojLines (settings : ProjectSettings) : List String :=
  let resources := dropBeginning "./" settings.folders.resources
  ["<Project Sdk=\"Microsoft.NET.Sdk\">",
    "",
    "  <PropertyGroup>",
    "    <Version>" ++ settings.moduleVersion ++ "</Version>",
    "    <LangVersion>7.1</LangVersion>",
    "    <TargetFramework>netstandard2.0</TargetFramework>",
    "    <OutputType>Library</OutputType>",
    "    <AssemblyName>" ++ settings.assemblyName ++ "</AssemblyName>",
    "    <RootNamespace>" ++ settings.space ++ "</RootNamespace>",
    "    <CopyLocalLockFileAssemblies>true</CopyLocalLockFileAssemblies>",
    "    <AppendTargetFrameworkToOutputPath>false</AppendTargetFrameworkToOutputPath>",
    "    <OutputPath>" ++ settings.folders.bin ++ "</OutputPath>",
    "    <PublishDir>$(OutputPath)</PublishDir>",
    "    <NuspecFile>" ++ settings.moduleName ++ ".nuspec</NuspecFile>",
    "    <NoPackageAnalysis>true</NoPackageAnalysis>",
    "    <!-- Some methods are marked async and don't have an await in them -->",
    "    <NoWarn>1998</NoWarn>",
    "    <TreatWarningsAsErrors>true</TreatWarningsAsErrors>",
    "    <WarningsAsErrors />",
    "  </PropertyGroup>",
    "",
    "  <PropertyGroup Condition=\"'$(Configuration)|$(Platform)'=='Debug|AnyCPU'\">",
    "    <DelaySign>false</DelaySign>",
    "    <DefineConstants>TRACE;DEBUG;NETSTANDARD</DefineConstants>",
    "  </PropertyGroup>",
    "",
    "  <PropertyGroup Condition=\"'$(Configuration)|$(Platform)'=='Release|AnyCPU'\">"] ++
  releaseLines settings.azure ++
  ["  </PropertyGroup>",
    "",
    "  <ItemGroup>",
    "    <PackageReference Include=\"PowerShellStandard.Library\" Version=\"5.1.0\" />",
    "    <PackageReference Include=\"Microsoft.CSharp\" Version=\"4.4.1\" />",
    "  </ItemGroup>",
    "",
    "  <PropertyGroup>",
    "    <DefaultItemExcludes>$(DefaultItemExcludes);" ++ resources ++ "/**</DefaultItemExcludes>",
    "  </PropertyGroup>",
    "",
    "</Project>"]

/-- The descriptor of a library. -/
def csproj : Descriptor where
  path settings := settings.files.csproj
  contentType := .csharp
  render settings := "\n".intercalate (csprojLines settings)

end Descriptor
end CmdletForge
